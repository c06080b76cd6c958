import CatalogSearch.Settings.Files
import CatalogSearch.Proofs.Path
import Mathlib.Data.List.Pairwise

/-!
Which configuration files are found. The search reads the candidates from the closest one on and
stops at the first root, so nothing beyond that root matters: neither the files above it nor the
home directory.
-/

namespace CatalogSearch.Settings

open CatalogSearch.Path (same)

variable {fs fs' : FileSystem} {cwd path : String} {home home' : Option String}
  {paths before after : List String} {root : String}

/-- The file in a directory comes before the candidates of its parent. -/
theorem candidates_eq (cwd : String) :
    candidates cwd =
      Path.join cwd fileName :: ((Path.parent? cwd).map candidates).getD [] := by
  rw [candidates, Path.ancestors_eq, List.map_cons]
  cases Path.parent? cwd <;> rfl

theorem isFile_of_isRoot (h : isRoot fs path) : fs.isFile path := by
  rw [isRoot] at h
  split at h
  case h_1 text htext => rw [FileSystem.isFile, htext]
  case h_2 => cases h

/-! ### Local files -/

theorem localFiles_append_root (hroot : isRoot fs root)
    (hbefore : ∀ path ∈ before, ¬ isRoot fs path) :
    localFiles fs (before ++ root :: after) = (before.filter fs.isFile ++ [root], true) := by
  induction before with
  | nil => simp [localFiles, isFile_of_isRoot hroot, hroot]
  | cons path before ih =>
      obtain ⟨hpath, hbefore⟩ := List.forall_mem_cons.1 hbefore
      rw [List.cons_append, localFiles, ih hbefore, List.filter_cons]
      by_cases hfile : fs.isFile path <;> simp [hfile, hpath]

theorem localFiles_of_forall_not_isRoot (h : ∀ path ∈ paths, ¬ isRoot fs path) :
    localFiles fs paths = (paths.filter fs.isFile, false) := by
  induction paths with
  | nil => rfl
  | cons path paths ih =>
      obtain ⟨hpath, h⟩ := List.forall_mem_cons.1 h
      rw [localFiles, ih h, List.filter_cons]
      by_cases hfile : fs.isFile path <;> simp [hfile, hpath]

theorem localFiles_sublist (fs : FileSystem) (paths : List String) :
    (localFiles fs paths).1.Sublist paths := by
  induction paths with
  | nil => exact List.Sublist.refl []
  | cons path paths ih =>
      rw [localFiles]
      split
      · exact ih.cons path
      split
      · exact List.singleton_sublist.2 List.mem_cons_self
      · exact ih.cons_cons path

/-! ### Discovery -/

theorem discover_eq (fs : FileSystem) (cwd : String) (home : Option String) :
    discover fs cwd home =
      (localFiles fs (candidates cwd)).1 ++ (home.map globalPath).toList.filter fun path =>
        !(localFiles fs (candidates cwd)).2 && fs.isFile path &&
          !(localFiles fs (candidates cwd)).1.any (same path) := by
  rw [discover]
  cases home with
  | none => exact (List.append_nil _).symm
  | some home =>
      simp only [Option.map_some, Option.toList_some, List.filter_singleton, ← Bool.cond_eq_ite]
      cases !(localFiles fs (candidates cwd)).2 && fs.isFile (globalPath home) &&
        !(localFiles fs (candidates cwd)).1.any (same (globalPath home)) with
      | false => exact (List.append_nil _).symm
      | true => rfl

/-- With a root the files are those up to the root, and no home is looked at. -/
theorem discover_of_isRoot (hcandidates : candidates cwd = before ++ root :: after)
    (hroot : isRoot fs root) (hbefore : ∀ path ∈ before, ¬ isRoot fs path)
    (home : Option String) : discover fs cwd home = before.filter fs.isFile ++ [root] := by
  rw [discover_eq, hcandidates, localFiles_append_root hroot hbefore]
  simp only [Bool.not_true, Bool.false_and, List.filter_false, List.append_nil]

theorem discover_of_forall_not_isRoot (h : ∀ path ∈ candidates cwd, ¬ isRoot fs path)
    (home : Option String) :
    discover fs cwd home =
      (candidates cwd).filter fs.isFile ++ (home.map globalPath).toList.filter fun path =>
        fs.isFile path && !((candidates cwd).filter fs.isFile).any (same path) := by
  rw [discover_eq, localFiles_of_forall_not_isRoot h]
  simp only [Bool.not_false, Bool.true_and]

theorem same_comm (path other : String) : same path other = same other path := by
  rw [same, same, BEq.comm, BEq.comm (a := Path.names path)]

theorem pairwise_candidates (cwd : String) :
    (candidates cwd).Pairwise fun closer farther => same closer farther = false := by
  refine List.pairwise_map.2 ((Path.pairwise_depth_ancestors cwd).imp fun {closer farther} h => ?_)
  have hname : '/' ∉ fileName.toList := by decide
  have hvoid : Path.isVoid fileName = false := by decide
  -- The files have the same name, but the closer one has more names before it.
  have hlength : (Path.names (Path.join closer fileName)).length ≠
      (Path.names (Path.join farther fileName)).length := by
    rw [Path.length_names_join hname hvoid, Path.length_names_join hname hvoid]
    omega
  rw [same, Bool.and_eq_false_iff]
  exact Or.inr (beq_eq_false_iff_ne.2 fun heq => hlength (congrArg List.length heq))

theorem pairwise_discover (fs : FileSystem) (cwd : String) (home : Option String) :
    (discover fs cwd home).Pairwise fun closer farther => same closer farther = false := by
  rw [discover_eq]
  refine List.pairwise_append.2
    ⟨(pairwise_candidates cwd).sublist (localFiles_sublist fs (candidates cwd)), ?_, ?_⟩
  · refine List.Pairwise.filter _ ?_
    cases home with
    | none => exact List.Pairwise.nil
    | some home => exact List.pairwise_singleton _ _
  · -- The file of the home directory has been compared with those that were found before.
    intro path hpath global hglobal
    have hnew := (Bool.and_eq_true_iff.1 (List.mem_filter.1 hglobal).2).2
    rw [Bool.not_eq_true', List.any_eq_false] at hnew
    rw [same_comm]
    exact Bool.eq_false_iff.2 (hnew path hpath)

/-! ### What is looked at -/

theorem loadFiles_congr (h : ∀ path ∈ paths, fs' path = fs path) :
    loadFiles fs' paths = loadFiles fs paths := by
  have hread : paths.mapM (readFile fs') = paths.mapM (readFile fs) := by
    induction paths with
    | nil => rfl
    | cons path paths ih =>
        obtain ⟨hpath, h⟩ := List.forall_mem_cons.1 h
        rw [List.mapM_cons, List.mapM_cons, ih h, readFile, hpath, readFile]
  rw [loadFiles, hread, loadFiles]

theorem filter_isFile_congr (h : ∀ path ∈ paths, fs' path = fs path) :
    paths.filter fs'.isFile = paths.filter fs.isFile :=
  List.filter_congr fun path hpath => by
    rw [FileSystem.isFile, h path hpath, FileSystem.isFile]

theorem isRoot_congr (h : fs' path = fs path) : isRoot fs' path = isRoot fs path := by
  rw [isRoot, h, isRoot]

/-- Nothing beyond the closest root is looked at. -/
theorem discover_congr_of_isRoot (hcandidates : candidates cwd = before ++ root :: after)
    (hroot : isRoot fs root) (hbefore : ∀ path ∈ before, ¬ isRoot fs path)
    (h : ∀ path ∈ before ++ [root], fs' path = fs path) (home home' : Option String) :
    discover fs' cwd home' = discover fs cwd home ∧ load fs' cwd home' = load fs cwd home := by
  have hagree : ∀ path ∈ before, fs' path = fs path :=
    fun path hpath => h path (List.mem_append_left [root] hpath)
  have hroot' : isRoot fs' root := by
    rwa [isRoot_congr (h root (List.mem_append_right before (List.mem_singleton_self root)))]
  have hbefore' : ∀ path ∈ before, ¬ isRoot fs' path := fun path hpath => by
    rw [isRoot_congr (hagree path hpath)]
    exact hbefore path hpath
  -- The root is the first one in either file system, so either search is cut there.
  have hdiscover : discover fs' cwd home' = discover fs cwd home := by
    rw [discover_of_isRoot hcandidates hroot' hbefore',
      discover_of_isRoot hcandidates hroot hbefore, filter_isFile_congr hagree]
  refine ⟨hdiscover, ?_⟩
  rw [load, hdiscover, load]
  refine loadFiles_congr fun path hpath => h path ?_
  rw [discover_of_isRoot hcandidates hroot hbefore] at hpath
  exact ((List.filter_sublist).append (List.Sublist.refl [root])).subset hpath

theorem localFiles_congr (h : ∀ path ∈ paths, fs' path = fs path) :
    localFiles fs' paths = localFiles fs paths := by
  induction paths with
  | nil => rfl
  | cons path paths ih =>
      obtain ⟨hpath, h⟩ := List.forall_mem_cons.1 h
      rw [localFiles, ih h, isRoot_congr hpath, FileSystem.isFile, hpath, localFiles,
        FileSystem.isFile]

theorem discover_sublist (fs : FileSystem) (cwd : String) (home : Option String) :
    (discover fs cwd home).Sublist (candidates cwd ++ (home.map globalPath).toList) := by
  rw [discover_eq]
  exact (localFiles_sublist fs (candidates cwd)).append List.filter_sublist

theorem discover_congr
    (h : ∀ path ∈ candidates cwd ++ (home.map globalPath).toList, fs' path = fs path) :
    discover fs' cwd home = discover fs cwd home ∧ load fs' cwd home = load fs cwd home := by
  have hdiscover : discover fs' cwd home = discover fs cwd home := by
    have hlocal := localFiles_congr fun path hpath => h path (List.mem_append_left _ hpath)
    rw [discover_eq, hlocal, discover_eq]
    refine congrArg _ (List.filter_congr fun path hpath => ?_)
    rw [FileSystem.isFile, h path (List.mem_append_right _ hpath), FileSystem.isFile]
  refine ⟨hdiscover, ?_⟩
  rw [load, hdiscover, load]
  exact loadFiles_congr fun path hpath => h path ((discover_sublist fs cwd home).subset hpath)

/-- **The closest files count, and a root shuts out the rest.** The candidates are the files of the
one name in the working directory and the directories above it, closest first. If one of them is a
root, the files up to the closest root are found, and they and what is loaded from them stay the
same in every file system that agrees up to that root, wherever the home directory is. If none is,
all files are found, and last the file of the home directory, when it is there and has not been
found already; then only the candidates and that file matter. No file is found twice. -/
theorem discover_closestFirst (fs : FileSystem) (cwd : String) (home : Option String) :
    (∀ before root after, candidates cwd = before ++ root :: after → isRoot fs root →
      (∀ path ∈ before, ¬ isRoot fs path) →
      discover fs cwd home = before.filter fs.isFile ++ [root] ∧
      ∀ (fs' : FileSystem) (home' : Option String),
        (∀ path ∈ before ++ [root], fs' path = fs path) →
        discover fs' cwd home' = discover fs cwd home ∧ load fs' cwd home' = load fs cwd home) ∧
    ((∀ path ∈ candidates cwd, ¬ isRoot fs path) →
      discover fs cwd home =
        (candidates cwd).filter fs.isFile ++ (home.map globalPath).toList.filter fun path =>
          fs.isFile path && !((candidates cwd).filter fs.isFile).any (same path)) ∧
    (∀ fs' : FileSystem,
      (∀ path ∈ candidates cwd ++ (home.map globalPath).toList, fs' path = fs path) →
      discover fs' cwd home = discover fs cwd home ∧ load fs' cwd home = load fs cwd home) ∧
    (discover fs cwd home).Pairwise fun closer farther => same closer farther = false :=
  ⟨fun _ _ _ hcandidates hroot hbefore =>
      ⟨discover_of_isRoot hcandidates hroot hbefore home,
        fun _ home' h => discover_congr_of_isRoot hcandidates hroot hbefore h home home'⟩,
    fun h => discover_of_forall_not_isRoot h home,
    fun _ h => discover_congr h,
    pairwise_discover fs cwd home⟩

/-- A root in a project, a file below it that cannot be read as a configuration, and a file above
it. -/
def projectFiles : FileSystem := fun path =>
  if path = "/work/project/src/.shelf.toml" then .ok "root = yes"
  else if path = "/work/project/.shelf.toml" then .ok "root = true"
  else if path = "/work/.shelf.toml" then .ok "[browse]"
  else .error .notFound

/-- The same project on another machine, below a directory of the name of configuration files. -/
def copiedFiles : FileSystem := fun path =>
  if path = "/work/project/src/.shelf.toml" then .ok "root = yes"
  else if path = "/work/project/.shelf.toml" then .ok "root = true"
  else if path = "/work/.shelf.toml" then .error .isADirectory
  else .error .notFound

/-- In the project the root is the last file on either machine. In the home directory above it, the
file of the home directory is the closest one already. Elsewhere the project does not matter. -/
theorem discover_closestFirst_project :
    discover projectFiles "/work/project/src" (some "/work") =
      ["/work/project/src/.shelf.toml", "/work/project/.shelf.toml"] ∧
    discover copiedFiles "/work/project/src" none =
      discover projectFiles "/work/project/src" (some "/work") ∧
    load copiedFiles "/work/project/src" none =
      load projectFiles "/work/project/src" (some "/work") ∧
    discover projectFiles "/work" (some "/work/") = ["/work/.shelf.toml"] ∧
    load copiedFiles "/home" none = load projectFiles "/home" none := by
  have hbefore : ∀ path ∈ ["/work/project/src/.shelf.toml"], ¬ isRoot projectFiles path := by
    decide +kernel
  have hagree : ∀ path ∈ ["/work/project/src/.shelf.toml"] ++ ["/work/project/.shelf.toml"],
      copiedFiles path = projectFiles path := by decide +kernel
  obtain ⟨hfound, hsame⟩ :=
    (discover_closestFirst projectFiles "/work/project/src" (some "/work")).1
      ["/work/project/src/.shelf.toml"] "/work/project/.shelf.toml"
      ["/work/.shelf.toml", "/.shelf.toml"] (by decide +kernel) (by decide +kernel) hbefore
  refine ⟨hfound.trans (by decide +kernel), (hsame copiedFiles none hagree).1,
    (hsame copiedFiles none hagree).2, ?_, ?_⟩
  · exact ((discover_closestFirst projectFiles "/work" (some "/work/")).2.1
      (by decide +kernel)).trans (by decide +kernel)
  · exact ((discover_closestFirst projectFiles "/home" none).2.2.1 copiedFiles
      (by decide +kernel)).2

end CatalogSearch.Settings
