import CatalogSearch.Proofs.Settings.Definition

/-!
The precedence of files. Browse settings are written over each other from the lowest precedence
upwards, and resources are gathered from the highest downwards; either way the first file that has
something decides. So files of lower precedence only add what is missing.
-/

namespace CatalogSearch.Settings

/-- A browse setting is that of the first file which has it, although the files are gone through
from the last one. -/
theorem get_mergeBrowse {get : BrowseSettings → Nat} {key : Declared → Option Nat}
    (hget : ∀ d below, get (d.overBrowse below) = (key d).getD (get below))
    (files : List Declared) :
    get (mergeBrowse files) = (files.findSome? key).getD (get .standard) := by
  induction files with
  | nil => rfl
  | cons d files ih =>
      have hover : mergeBrowse (d :: files) = d.overBrowse (mergeBrowse files) := rfl
      rw [hover, hget, ih, List.findSome?_cons]
      cases key d <;> rfl

theorem get_mergeBrowse_append {get : BrowseSettings → Nat} {key : Declared → Option Nat}
    (hget : ∀ d below, get (d.overBrowse below) = (key d).getD (get below))
    {files : List Declared} (h : ∃ d ∈ files, (key d).isSome) (more : List Declared) :
    get (mergeBrowse (files ++ more)) = get (mergeBrowse files) := by
  obtain ⟨n, hn⟩ := Option.isSome_iff_exists.1 (List.findSome?_isSome_iff.2 h)
  rw [get_mergeBrowse hget, get_mergeBrowse hget, List.findSome?_append, hn, Option.some_or]

theorem merge_fails_iff (files : List (String × Declared)) :
    (∃ err, merge files = .error err) ↔
      ∃ name group, EmptyGroup (files.map Prod.snd) name group := by
  rw [← failure?_ne_none_iff, failure?_merge, ne_eq, failure?_mergeResources_eq_none_iff]
  simp only [not_forall, not_not]

/-- What could not be merged cannot be merged with more files either. -/
theorem merge_append_eq_error {files : List (String × Declared)} {err : SettingsError}
    (h : merge files = .error err) (more : List (String × Declared)) :
    merge (files ++ more) = .error err := by
  rw [← failure?_eq_some_iff, failure?_merge] at h ⊢
  rw [List.map_append, failure?_mergeResources_append, h, Option.some_or]

/-- A resource that files describe stays as it is when there are more files. -/
theorem resource?_of_merge_append {files more : List (String × Declared)} {s s' : Settings}
    (h : merge files = .ok s) (h' : merge (files ++ more) = .ok s') {name : String} {res : Resource}
    (hres : s.catalog.resource? name = some res) : s'.catalog.resource? name = some res := by
  obtain ⟨k, hk, rfl⟩ := merge_eq_ok_iff.1 h
  obtain ⟨k', hk', rfl⟩ := merge_eq_ok_iff.1 h'
  obtain ⟨r, hr, hres⟩ := (resource?_of_mergeResources hk name res).1 hres
  refine (resource?_of_mergeResources hk' name res).2 ⟨r, ?_, hres⟩
  rw [List.map_append, definition?_append, hr, Option.some_or]

/-- **The first file that has something decides.** Files cannot be merged exactly if a group has no
members in the definition of a resource that counts, which is the one in the first file that defines
the resource. If they can, the resources are those of these definitions and no others, each browse
setting is that of the first file which has it, or else the standard one, and the catalog is
well-formed. Further files of lower precedence change no resource and no browse setting that there
is. -/
theorem merge_precedence (files : List (String × Declared)) :
    ((∃ err, merge files = .error err) ↔
      ∃ name group, EmptyGroup (files.map Prod.snd) name group) ∧
    (∀ s, merge files = .ok s →
      (∀ name res, s.catalog.resource? name = some res ↔
        ∃ r, definition? (files.map Prod.snd) name = some r ∧ r.toResource name = .ok res) ∧
      s.browse.defaultLimit = (files.findSome? fun file => file.2.defaultLimit).getD
        BrowseSettings.standard.defaultLimit ∧
      s.browse.callNumberRangeOffset =
        (files.findSome? fun file => file.2.callNumberRangeOffset).getD
          BrowseSettings.standard.callNumberRangeOffset ∧
      s.catalog.WellFormed) ∧
    ∀ more, (∀ err, merge files = .error err → merge (files ++ more) = .error err) ∧
      ∀ s s', merge files = .ok s → merge (files ++ more) = .ok s' →
        (∀ name res, s.catalog.resource? name = some res →
          s'.catalog.resource? name = some res) ∧
        ((∃ file ∈ files, file.2.defaultLimit.isSome) →
          s'.browse.defaultLimit = s.browse.defaultLimit) ∧
        ((∃ file ∈ files, file.2.callNumberRangeOffset.isSome) →
          s'.browse.callNumberRangeOffset = s.browse.callNumberRangeOffset) := by
  refine ⟨merge_fails_iff files, fun s hs => ?_, fun more => ⟨fun err h => ?_, ?_⟩⟩
  · have hwellFormed := (Loaded.merge hs).wellFormed
    obtain ⟨k, hk, rfl⟩ := merge_eq_ok_iff.1 hs
    refine ⟨resource?_of_mergeResources hk, ?_, ?_, hwellFormed⟩
    · exact (get_mergeBrowse (fun _ _ => rfl) _).trans (by rw [List.findSome?_map]; rfl)
    · exact (get_mergeBrowse (fun _ _ => rfl) _).trans (by rw [List.findSome?_map]; rfl)
  · exact merge_append_eq_error h more
  · intro s s' hs hs'
    refine ⟨fun name res => resource?_of_merge_append hs hs', ?_⟩
    obtain ⟨k, hk, rfl⟩ := merge_eq_ok_iff.1 hs
    obtain ⟨k', hk', rfl⟩ := merge_eq_ok_iff.1 hs'
    simp only [List.map_append]
    constructor
    · rintro ⟨file, hfile, hkey⟩
      exact get_mergeBrowse_append (fun _ _ => rfl) ⟨_, List.mem_map_of_mem hfile, hkey⟩ _
    · rintro ⟨file, hfile, hkey⟩
      exact get_mergeBrowse_append (fun _ _ => rfl) ⟨_, List.mem_map_of_mem hfile, hkey⟩ _

/-- A file of a project: pages of ten, and books that are searched by their titles and sorted by
their call numbers. -/
def projectFile : String × Declared :=
  ("/work/.shelf.toml", ⟨false, some 10, none,
    [("book", ⟨[("shelf", "callNumber")], [("names", ["title"])],
      [("title", ⟨[.fulltext, .sort, .fulltext], false, none, .keyword, none⟩),
        ("callNumber", ⟨[.sort, .filter], true, some "call-number", .long,
          some ⟨some "callNumber.order", .collection, ["title"]⟩⟩)]⟩)]⟩)

/-- A file of a home directory: other pages, films, and books with a group that has no members. -/
def homeFile : String × Declared :=
  ("/home/.shelf.toml", ⟨false, some 50, some 7,
    [("film", ⟨[("name", "title")], [], []⟩), ("book", ⟨[], [("names", [])], []⟩)]⟩)

/-- The books of the project, whatever other files say of books. -/
def projectBooks : Resource where
  name := "book"
  aliases := .ofList [("shelf", "callNumber")]
  groups := .ofList [("names", ["title"])]
  fields := .ofList [
    ("title", ⟨"title", [.sort, .fulltext], false, none, .keyword, none⟩),
    ("callNumber", ⟨"callNumber", [.filter, .sort], true, some "call-number", .long,
      some ⟨some "callNumber.order", .collection, ["title"]⟩⟩)]

/-- The films of the home directory. -/
def homeFilms : Resource where
  name := "film"
  aliases := .ofList [("name", "title")]
  groups := .empty
  fields := .empty

/-- The file of the home directory cannot be used by itself. Below that of the project it adds its
films and the offset, and its books are not looked at. -/
theorem merge_precedence_project :
    (∃ err, merge [homeFile] = .error err) ∧
    ∃ s s', merge [projectFile] = .ok s ∧ merge ([projectFile] ++ [homeFile]) = .ok s' ∧
      s.catalog.resource? "book" = some projectBooks ∧
      s'.catalog.resource? "book" = some projectBooks ∧
      s'.catalog.resource? "film" = some homeFilms ∧
      s'.browse.defaultLimit = 10 ∧ s'.browse.callNumberRangeOffset = 7 ∧
      s'.catalog.WellFormed := by
  let root := Path.parent? projectFile.1
  let s : Settings := ⟨⟨10, 100000000000000⟩, ⟨.ofList [("book", projectBooks)]⟩, root⟩
  let s' : Settings := ⟨⟨10, 7⟩, ⟨.ofList [("book", projectBooks), ("film", homeFilms)]⟩, root⟩
  have hs : merge [projectFile] = .ok s :=
    merge_eq_ok_iff.2 ⟨s.catalog, by decide +kernel, rfl⟩
  have hs' : merge ([projectFile] ++ [homeFile]) = .ok s' :=
    merge_eq_ok_iff.2 ⟨s'.catalog, by decide +kernel, rfl⟩
  have hempty : EmptyGroup [homeFile.2] "book" "names" :=
    ⟨⟨[], [("names", [])], []⟩, rfl, List.mem_singleton_self _⟩
  have hdeclared : definition? [projectFile.2, homeFile.2] "film" =
      some ⟨[("name", "title")], [], []⟩ := by
    decide +kernel
  obtain ⟨-, hmerged, hmore⟩ := merge_precedence [projectFile]
  obtain ⟨-, hmerged', -⟩ := merge_precedence ([projectFile] ++ [homeFile])
  obtain ⟨hresources, hlimit, -⟩ := (hmore [homeFile]).2 s s' hs hs'
  have hbook : s.catalog.resource? "book" = some projectBooks :=
    ((hmerged s hs).1 "book" projectBooks).2 ⟨_, rfl, by decide +kernel⟩
  refine ⟨(merge_precedence [homeFile]).1.2 ⟨_, _, hempty⟩, s, s', hs, hs', hbook,
    hresources _ _ hbook, ?_, ?_, ?_, ?_⟩
  · exact ((hmerged' s' hs').1 "film" homeFilms).2 ⟨_, hdeclared, by decide +kernel⟩
  · exact (hlimit ⟨projectFile, List.mem_singleton_self _, rfl⟩).trans (hmerged s hs).2.1
  · exact (hmerged' s' hs').2.2.1
  · exact (hmerged' s' hs').2.2.2

end CatalogSearch.Settings
