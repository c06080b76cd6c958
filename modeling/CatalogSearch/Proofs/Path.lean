import CatalogSearch.Path
import Mathlib.Data.List.DropRight

/-!
The names on a path. The parent of a path has one name less, and a file in a directory one name
more, so the ancestors of a path are all there is above it and the files of one name in them are
different paths.
-/

namespace CatalogSearch.Path

variable {path other name : String}

/-! ### Segments -/

theorem segments_ne_nil (path : String) : segments path ≠ [] := by
  simp [segments]

theorem notMem_of_mem_splitOn {c : Char} {cs piece : List Char} (h : piece ∈ cs.splitOn c) :
    c ∉ piece := by
  induction cs generalizing piece with
  | nil =>
      obtain rfl := List.mem_singleton.1 h
      exact List.not_mem_nil
  | cons d cs ih =>
      rw [List.splitOn_cons_eq_if_modifyHead] at h
      obtain ⟨head, rest, hsplit⟩ := List.exists_cons_of_ne_nil (List.splitOn_ne_nil c cs)
      rw [hsplit] at h ih
      split at h
      · obtain rfl | h := List.mem_cons.1 h
        · exact List.not_mem_nil
        · exact ih h
      case isFalse hd =>
        obtain rfl | h := List.mem_cons.1 h
        · have hc : c ∉ head := ih List.mem_cons_self
          have hne : c ≠ d := fun heq => hd (by simp [heq])
          simp [hc, hne]
        · exact ih (List.mem_cons_of_mem head h)

theorem slash_notMem_of_mem_segments {segment : String} (h : segment ∈ segments path) :
    '/' ∉ segment.toList := by
  obtain ⟨piece, hpiece, rfl⟩ := List.mem_map.1 h
  rw [String.toList_ofList]
  exact notMem_of_mem_splitOn hpiece

theorem segments_eq_singleton (h : '/' ∉ path.toList) : segments path = [path] := by
  rw [segments, List.splitOn_eq_singleton h, List.map_singleton, String.ofList_toList]

theorem segments_append_slash_append (front back : String) :
    segments (front ++ "/" ++ back) = segments front ++ segments back := by
  have hlist : (front ++ "/" ++ back).toList = front.toList ++ '/' :: back.toList := by simp
  rw [segments, hlist, List.splitOn_append_cons_self, List.map_append, segments, segments]

/-- Names without slashes that are joined by slashes are the segments of the path. -/
theorem segments_intercalate {first : String} {rest : List String}
    (h : ∀ segment ∈ first :: rest, '/' ∉ segment.toList) :
    segments ("/".intercalate (first :: rest)) = first :: rest := by
  induction rest generalizing first with
  | nil =>
      rw [String.intercalate_singleton]
      exact segments_eq_singleton (h first List.mem_cons_self)
  | cons second rest ih =>
      rw [String.intercalate_cons_cons, segments_append_slash_append,
        segments_eq_singleton (h first List.mem_cons_self),
        ih fun segment hsegment => h segment (List.mem_cons_of_mem first hsegment),
        List.singleton_append]

/-! ### Names -/

theorem names_of_segments {first : String} {rest : List String}
    (h : segments path = first :: rest) :
    names path = first :: rest.filter fun segment => !isVoid segment := by
  rw [names, h]

theorem names_append_slash_append (front back : String) :
    names (front ++ "/" ++ back) =
      names front ++ (segments back).filter fun segment => !isVoid segment := by
  obtain ⟨first, rest, hfront⟩ := List.exists_cons_of_ne_nil (segments_ne_nil front)
  have hsegments := segments_append_slash_append front back
  rw [hfront, List.cons_append] at hsegments
  rw [names_of_segments hsegments, names_of_segments hfront, List.filter_append, List.cons_append]

theorem names_eq_singleton (h : '/' ∉ path.toList) : names path = [path] :=
  names_of_segments (segments_eq_singleton h)

theorem isAbsolute_eq_false (h : '/' ∉ path.toList) : isAbsolute path = false := by
  rw [isAbsolute, beq_eq_false_iff_ne]
  exact fun hhead => h (List.mem_of_mem_head? hhead)

/-- A file in a directory has the names of the directory and its own. -/
theorem names_join (hpath : path ≠ "") (hname : '/' ∉ name.toList) (hvoid : isVoid name = false) :
    names (join path name) = names path ++ [name] := by
  have hlast : (segments name).filter (fun segment => !isVoid segment) = [name] := by
    simp [segments_eq_singleton hname, hvoid]
  have hopen : (isAbsolute name || path = "") = false := by
    simp [isAbsolute_eq_false hname, hpath]
  rw [join, hopen]
  split
  · contradiction
  split
  case isTrue hslash =>
    -- The slash that ends the path is the one before the name.
    obtain ⟨front, hfront⟩ : ∃ front : String, path = front ++ "/" := by
      obtain ⟨front, hfront⟩ := List.getLast?_eq_some_iff.1 hslash
      exact ⟨.ofList front, by rw [← String.toList_inj, hfront]; simp⟩
    have hnames : names path = names front := by
      have h := names_append_slash_append front ""
      have hempty : (segments "").filter (fun segment => !isVoid segment) = [] := by decide
      rwa [hempty, List.append_nil, String.append_empty, ← hfront] at h
    rw [hnames, hfront, names_append_slash_append, hlast]
  case isFalse => rw [names_append_slash_append, hlast]

/-! ### Depth -/

/-- How many names there are on a path. -/
def depth (path : String) : Nat := if path = "" then 0 else (names path).length

theorem depth_le_length_names (path : String) : depth path ≤ (names path).length := by
  rw [depth]
  split <;> omega

theorem depth_of_ne_empty (h : path ≠ "") : depth path = (names path).length := if_neg h

/-- A file in a directory is one name deeper than the directory. -/
theorem length_names_join (hname : '/' ∉ name.toList) (hvoid : isVoid name = false) :
    (names (join path name)).length = depth path + 1 := by
  by_cases hpath : path = ""
  · have hjoin : join path name = name := by simp [join, hpath]
    rw [hjoin, names_eq_singleton hname, hpath]
    rfl
  · rw [names_join hpath hname hvoid, depth_of_ne_empty hpath, List.length_append,
      List.length_singleton]

theorem dropVoid_eq (names : List String) : dropVoid names = names.rdropWhile isVoid := rfl

theorem filter_dropVoid (names : List String) :
    (dropVoid names).filter (fun name => !isVoid name) =
      names.filter fun name => !isVoid name := by
  induction names using List.reverseRecOn with
  | nil => rfl
  | append_singleton names name ih =>
      rw [dropVoid_eq, List.rdropWhile_concat]
      split
      case isTrue hvoid => simp [← dropVoid_eq, ih, hvoid]
      case isFalse => rfl

theorem ne_empty_of_segments {first second : String} {rest : List String}
    (h : segments path = first :: second :: rest) : path ≠ "" := by
  rintro rfl
  have hempty : segments "" = [""] := by decide
  rw [hempty] at h
  cases h

/-- What is left after the segments at the end that name nothing ends in a name. -/
theorem filter_eq_concat_of_dropVoid_ne_nil {segments : List String} (h : dropVoid segments ≠ []) :
    ∃ last, segments.filter (fun segment => !isVoid segment) =
      (dropVoid segments).dropLast.filter (fun segment => !isVoid segment) ++ [last] := by
  have hlast : isVoid ((dropVoid segments).getLast h) = false :=
    Bool.eq_false_iff.2 (List.rdropWhile_last_not isVoid segments h)
  refine ⟨(dropVoid segments).getLast h, ?_⟩
  conv_lhs => rw [← filter_dropVoid, ← List.dropLast_append_getLast h, List.filter_append]
  rw [List.filter_singleton, hlast]
  rfl

theorem depth_intercalate {first second : String} {rest : List String}
    (h : ∀ segment ∈ first :: second :: rest, '/' ∉ segment.toList) :
    depth ("/".intercalate (first :: second :: rest)) =
      ((second :: rest).filter fun segment => !isVoid segment).length + 1 := by
  have hsegments := segments_intercalate h
  rw [depth_of_ne_empty (ne_empty_of_segments hsegments), names_of_segments hsegments,
    List.length_cons]

section Parent

variable {first : String} {rest : List String} (hsegments : segments path = first :: rest)
include hsegments

theorem depth_of_dropVoid_ne_nil (h : dropVoid rest ≠ []) :
    depth path = (rest.filter fun segment => !isVoid segment).length + 1 := by
  obtain ⟨second, others, rfl⟩ : ∃ second others, rest = second :: others :=
    List.exists_cons_of_ne_nil fun hnil => h (by rw [hnil]; rfl)
  rw [depth_of_ne_empty (ne_empty_of_segments hsegments), names_of_segments hsegments,
    List.length_cons]

theorem parent?_of_dropVoid_eq_nil (h : dropVoid rest = []) :
    parent? path = if first = "" then none else some "" := by
  simp only [parent?, hsegments, h]

theorem parent?_of_dropVoid_dropLast_eq_nil (h : dropVoid rest ≠ [])
    (hup : dropVoid (dropVoid rest).dropLast = []) :
    parent? path = some (if first = "" then "/" else first) := by
  obtain ⟨second, others, hdrop⟩ := List.exists_cons_of_ne_nil h
  rw [hdrop] at hup
  simp only [parent?, hsegments, hdrop, hup]

theorem parent?_of_dropVoid_dropLast_ne_nil (h : dropVoid rest ≠ [])
    (hup : dropVoid (dropVoid rest).dropLast ≠ []) :
    parent? path =
      some ("/".intercalate (first :: dropVoid (dropVoid rest).dropLast)) := by
  obtain ⟨second, others, hdrop⟩ := List.exists_cons_of_ne_nil h
  obtain ⟨third, up, hcons⟩ := List.exists_cons_of_ne_nil hup
  rw [hdrop] at hcons
  simp only [parent?, hsegments, hdrop, hcons]

end Parent

theorem dropVoid_dropLast_subset (segments : List String) :
    dropVoid (dropVoid segments).dropLast ⊆ segments :=
  ((List.rdropWhile_prefix isVoid _).trans
    ((List.dropLast_prefix _).trans (List.rdropWhile_prefix isVoid _))).subset

/-- The parent of a path has one name less. -/
theorem depth_of_parent? (h : parent? path = some other) : depth path = depth other + 1 := by
  obtain ⟨first, rest, hsegments⟩ := List.exists_cons_of_ne_nil (segments_ne_nil path)
  have hslash : ∀ segment ∈ first :: rest, '/' ∉ segment.toList :=
    fun segment hmem => slash_notMem_of_mem_segments (hsegments ▸ hmem)
  by_cases hrest : dropVoid rest = []
  · -- The first segment is all there is, and the empty path is above it.
    rw [parent?_of_dropVoid_eq_nil hsegments hrest] at h
    have hnames := names_of_segments hsegments
    rw [← filter_dropVoid, hrest] at hnames
    split at h
    · cases h
    case isFalse hfirst =>
      obtain rfl := Option.some.inj h
      have hpath : path ≠ "" := by
        rintro rfl
        exact hfirst (List.cons.inj hsegments).1.symm
      rw [depth_of_ne_empty hpath, hnames]
      rfl
  · -- The last name is taken off, and with it what names nothing before it.
    obtain ⟨last, hlast⟩ := filter_eq_concat_of_dropVoid_ne_nil hrest
    rw [depth_of_dropVoid_ne_nil hsegments hrest, hlast, ← filter_dropVoid, List.length_append,
      List.length_singleton]
    by_cases hup : dropVoid (dropVoid rest).dropLast = []
    · rw [parent?_of_dropVoid_dropLast_eq_nil hsegments hrest hup] at h
      obtain rfl := Option.some.inj h
      rw [hup]
      split
      · rfl
      case isFalse hfirst =>
        rw [depth_of_ne_empty hfirst, names_eq_singleton (hslash first List.mem_cons_self)]
        rfl
    · rw [parent?_of_dropVoid_dropLast_ne_nil hsegments hrest hup] at h
      obtain rfl := Option.some.inj h
      obtain ⟨second, up, hcons⟩ := List.exists_cons_of_ne_nil hup
      have hsubset := dropVoid_dropLast_subset rest
      rw [hcons] at hsubset ⊢
      rw [depth_intercalate fun segment hmem =>
        hslash segment (List.cons_subset_cons first hsubset hmem)]

/-! ### Ancestors -/

theorem ancestorsWithin_depth {fuel : Nat} (h : depth path ≤ fuel) :
    ancestorsWithin fuel path = ancestorsWithin (depth path) path := by
  induction fuel generalizing path with
  | zero => rw [Nat.le_zero.1 h]
  | succ fuel ih =>
      rw [ancestorsWithin]
      match hparent : parent? path with
      | none => cases depth path <;> simp [ancestorsWithin, hparent]
      | some parent =>
          have hdepth := depth_of_parent? hparent
          rw [hdepth, ancestorsWithin, hparent]
          exact congrArg (path :: ·) (ih (by omega))

/-- A path leads to itself, after what leads to its parent. -/
theorem ancestors_eq (path : String) :
    ancestors path = path :: ((parent? path).map ancestors).getD [] := by
  rw [ancestors, ancestorsWithin_depth (depth_le_length_names path)]
  match hparent : parent? path with
  | none => cases depth path <;> simp [ancestorsWithin, hparent]
  | some parent =>
      rw [depth_of_parent? hparent, ancestorsWithin, hparent, Option.map_some, Option.getD_some,
        ancestors, ancestorsWithin_depth (depth_le_length_names parent)]

theorem depth_le_of_mem_ancestorsWithin {fuel : Nat} (h : other ∈ ancestorsWithin fuel path) :
    depth other ≤ depth path := by
  induction fuel generalizing path with
  | zero => rw [List.mem_singleton.1 h]
  | succ fuel ih =>
      rw [ancestorsWithin] at h
      obtain rfl | h := List.mem_cons.1 h
      · exact le_rfl
      · match hparent : parent? path with
        | none =>
            rw [hparent] at h
            cases h
        | some parent =>
            rw [hparent] at h
            have hle := ih h
            have hdepth := depth_of_parent? hparent
            omega

/-- Of two paths that lead to a path, the closer one is deeper. -/
theorem pairwise_depth_ancestors (path : String) :
    (ancestors path).Pairwise fun closer farther => depth farther < depth closer := by
  rw [ancestors]
  induction (names path).length generalizing path with
  | zero => exact List.pairwise_singleton _ _
  | succ fuel ih =>
      rw [ancestorsWithin]
      match hparent : parent? path with
      | none => exact List.pairwise_singleton _ _
      | some parent =>
          refine List.pairwise_cons.2 ⟨fun farther hfarther => ?_, ih parent⟩
          have hle := depth_le_of_mem_ancestorsWithin hfarther
          have hdepth := depth_of_parent? hparent
          omega

end CatalogSearch.Path
