import CatalogSearch.Proofs.Settings.Definition
import CatalogSearch.Proofs.Settings.Distinct
import Mathlib.Data.List.Induction

/-!
Files whose entries are listed in other orders. A file is read into tables of which nobody knows in
what order they list their entries. That order does not bear on the settings that files are merged
into, nor on whether they can be merged. It does bear on the error if they cannot: the errors of all
orders are the empty groups in the first file that has one, and one order gives one of them.
-/

namespace CatalogSearch

/-- The same resource, with its aliases, groups and fields in any order. -/
structure DeclaredResource.Reordered (r r' : DeclaredResource) : Prop where
  aliases : r.aliases.Perm r'.aliases
  groups : r.groups.Perm r'.groups
  fields : r.fields.Perm r'.fields

/-- The same file, with its resources and what they hold in any order. -/
structure Declared.Reordered (d d' : Declared) : Prop where
  root : d.root = d'.root
  defaultLimit : d.defaultLimit = d'.defaultLimit
  callNumberRangeOffset : d.callNumberRangeOffset = d'.callNumberRangeOffset
  resources : ∃ listed, d.resources.Perm listed ∧
    Entrywise (fun _ => DeclaredResource.Reordered) listed d'.resources

theorem DeclaredResource.Reordered.refl (r : DeclaredResource) : r.Reordered r :=
  ⟨.refl _, .refl _, .refl _⟩

theorem Declared.Reordered.refl (d : Declared) : d.Reordered d :=
  ⟨rfl, rfl, rfl, d.resources, .refl _, List.forall₂_same.2 fun _ _ => ⟨rfl, .refl _⟩⟩

theorem Declared.Reordered.lookup {d d' : Declared} (h : d.Reordered d') (hd : d.Distinct)
    (name : String) :
    Option.Rel DeclaredResource.Reordered (d.resources.lookup name) (d'.resources.lookup name) := by
  obtain ⟨listed, hperm, hlisted⟩ := h.resources
  rw [NameTable.lookup_eq_of_perm hd.names hperm]
  exact hlisted.lookup name

/-- The resource that a definition describes does not depend on the order. -/
theorem DeclaredResource.Reordered.toResource {r r' : DeclaredResource} (h : r.Reordered r')
    (hr : r.Distinct) {name : String} {res : Resource} (hres : r.toResource name = .ok res) :
    r'.toResource name = .ok res := by
  obtain ⟨hmembers, rfl⟩ := toResource_eq_ok_iff.1 hres
  refine toResource_eq_ok_iff.2
    ⟨fun group hgroup => hmembers group (h.groups.mem_iff.2 hgroup), ?_⟩
  have hfields := h.fields.map fun (x : String × DeclaredField) => (x.1, x.2.toField x.1)
  have hnames : (r.fields.map fun x => (x.1, x.2.toField x.1)).map Prod.fst =
      r.fields.map Prod.fst := by
    rw [List.map_map]
    rfl
  rw [NameTable.ofList_eq_of_perm hr.aliases h.aliases,
    NameTable.ofList_eq_of_perm hr.groups h.groups,
    NameTable.ofList_eq_of_perm (hnames ▸ hr.fields) hfields]

namespace Settings

/-- Files at the same paths in the same order of precedence, each with its entries in any order. -/
def Reordered (files files' : List (String × Declared)) : Prop :=
  Entrywise (fun _ => Declared.Reordered) files files'

/-- An empty group in the first file that has one: the files before it have none. -/
def FirstEmptyGroup (files : List Declared) (name group : String) : Prop :=
  ∃ n, (∀ name group, ¬ EmptyGroup (files.take n) name group) ∧
    EmptyGroup (files.take (n + 1)) name group

/-! ### What does not depend on the order -/

section

variable {files files' : List Declared} (h : List.Forall₂ Declared.Reordered files files')
  (hfiles : ∀ d ∈ files, d.Distinct)

include h hfiles

theorem rel_definition? (name : String) :
    Option.Rel DeclaredResource.Reordered (definition? files name) (definition? files' name) := by
  induction h with
  | nil => exact .none
  | @cons d d' files files' hd _ ih =>
      have hlookup := hd.lookup (hfiles d List.mem_cons_self) name
      have hrest := ih fun e he => hfiles e (List.mem_cons_of_mem _ he)
      simp only [definition?, List.findSome?_cons] at hrest ⊢
      rcases rel_iff.1 hlookup with ⟨hr, hr'⟩ | ⟨r, r', hr, hr', hreordered⟩
      · rw [hr, hr']
        exact hrest
      · rw [hr, hr']
        exact .some hreordered

theorem emptyGroup_iff (name group : String) :
    EmptyGroup files name group ↔ EmptyGroup files' name group := by
  rcases rel_iff.1 (rel_definition? h hfiles name) with ⟨hr, hr'⟩ | ⟨r, r', hr, hr', hreordered⟩
  · simp [EmptyGroup, hr, hr']
  · simp [EmptyGroup, hr, hr', hreordered.groups.mem_iff]

theorem firstEmptyGroup_iff (name group : String) :
    FirstEmptyGroup files name group ↔ FirstEmptyGroup files' name group := by
  have hiff : ∀ n name group,
      EmptyGroup (files.take n) name group ↔ EmptyGroup (files'.take n) name group := fun n =>
    emptyGroup_iff (List.forall₂_take n h) fun d hd => hfiles d (List.mem_of_mem_take hd)
  simp only [FirstEmptyGroup, hiff]

omit h in
theorem distinct_of_definition? {name : String} {r : DeclaredResource}
    (hr : definition? files name = some r) : r.Distinct := by
  obtain ⟨d, hd, hr⟩ := List.exists_of_findSome?_eq_some hr
  exact (hfiles d hd).resources _ (NameTable.mem_of_lookup hr)

/-- The catalog of files is the same for all orders. -/
theorem mergeResources_reordered {k : Catalog} (hk : mergeResources files = .ok k) :
    mergeResources files' = .ok k := by
  have hnone := failure?_mergeResources_eq_none_iff.1 (failure?_eq_none_iff.2 ⟨k, hk⟩)
  have hnone' : ∀ name group, ¬ EmptyGroup files' name group := fun name group hgroup =>
    hnone name group ((emptyGroup_iff h hfiles name group).2 hgroup)
  obtain ⟨k', hk'⟩ := failure?_eq_none_iff.1 (failure?_mergeResources_eq_none_iff.2 hnone')
  have hsame : k.resources = k'.resources := by
    refine NameTable.eq_of_get? fun name res => ?_
    refine (resource?_of_mergeResources hk name res).trans
      (Iff.trans ?_ (resource?_of_mergeResources hk' name res).symm)
    rcases rel_iff.1 (rel_definition? h hfiles name) with ⟨hr, hr'⟩ | ⟨r, r', hr, hr', hreordered⟩
    · simp [hr, hr']
    · have hmembers : ∀ group, (group, []) ∉ r.groups := fun group hgroup =>
        hnone name group ⟨r, hr, hgroup⟩
      obtain ⟨res₀, hres⟩ : ∃ res, r.toResource name = .ok res :=
        failure?_eq_none_iff.1 (DeclaredResource.failure?_toResource_eq_none_iff.2 hmembers)
      have hres' := hreordered.toResource (distinct_of_definition? hfiles hr) hres
      simp [hr, hr', hres, hres']
  cases k
  cases k'
  cases hsame
  exact hk'

omit hfiles in
theorem mergeBrowse_reordered : mergeBrowse files' = mergeBrowse files := by
  induction h with
  | nil => rfl
  | @cons d d' files files' hd _ ih =>
      rw [mergeBrowse, List.foldr_cons, ← mergeBrowse, ih, Declared.overBrowse, ← hd.defaultLimit,
        ← hd.callNumberRangeOffset]
      rfl

end

theorem Reordered.refl (files : List (String × Declared)) : Reordered files files :=
  List.forall₂_same.2 fun _ _ => ⟨rfl, .refl _⟩

section

variable {files files' : List (String × Declared)} (h : Reordered files files')
  (hfiles : ∀ file ∈ files, file.2.Distinct)

include h hfiles

theorem merge_eq_ok_of_reordered {s : Settings} (hs : merge files = .ok s) :
    merge files' = .ok s := by
  obtain ⟨k, hk, rfl⟩ := merge_eq_ok_iff.1 hs
  have hdeclared := Entrywise.map_snd h
  refine merge_eq_ok_iff.2
    ⟨k, mergeResources_reordered hdeclared (List.forall_mem_map.2 hfiles) hk, ?_⟩
  rw [mergeBrowse_reordered hdeclared]
  cases h with
  | nil => rfl
  | cons hfile _ => simp [hfile.1]

theorem failure?_merge_reordered :
    failure? (merge files') = none ↔ failure? (merge files) = none := by
  rw [failure?_merge, failure?_merge, failure?_mergeResources_eq_none_iff,
    failure?_mergeResources_eq_none_iff]
  simp only [emptyGroup_iff (Entrywise.map_snd h) (List.forall_mem_map.2 hfiles)]

end

/-! ### What depends on the order -/

/-- Files that cannot be merged are told about by one of the empty groups in the first file that
has one; the induction takes the last file off. -/
theorem firstEmptyGroup_of_error {files : List Declared} {err : SettingsError}
    (h : mergeResources files = .error err) :
    ∃ name group, err = .emptyGroup name group ∧ FirstEmptyGroup files name group := by
  induction files using List.reverseRecOn with
  | nil => cases h
  | append_singleton files d ih =>
      rw [← failure?_eq_some_iff, failure?_mergeResources_append, Option.or_eq_some_iff] at h
      rcases h with h | ⟨hnone, h⟩
      · obtain ⟨name, group, rfl, n, hbefore, hgroup⟩ := ih (failure?_eq_some_iff.1 h)
        have hn : n + 1 ≤ files.length := by
          by_contra hn
          rw [List.take_of_length_le (by omega)] at hgroup hbefore
          exact hbefore name group hgroup
        refine ⟨name, group, rfl, n, ?_⟩
        rw [List.take_append_of_le_length hn, List.take_append_of_le_length (by omega)]
        exact ⟨hbefore, hgroup⟩
      · -- The files before the last one have no empty group, so it is the first that has one.
        obtain ⟨⟨name, r⟩, hr, herr⟩ := List.exists_of_findSome?_eq_some h
        obtain ⟨group, hgroup, rfl⟩ :=
          DeclaredResource.toResource_eq_error (failure?_eq_some_iff.1 herr)
        have hdefinition : definition? (files ++ [d]) name = some r := by
          rw [← mem_firstDeclarations_iff, List.flatMap_append, firstDeclarations_append,
            List.append_nil]
          exact List.mem_append_right _ hr
        refine ⟨name, group, rfl, files.length, ?_, ?_⟩
        · rw [List.take_left]
          exact failure?_mergeResources_eq_none_iff.1 hnone
        · rw [List.take_of_length_le (by simp)]
          exact ⟨r, hdefinition, hgroup⟩

theorem toResource_cons_empty (r : DeclaredResource) (name group : String) :
    DeclaredResource.toResource name
      { r with groups := (group, []) :: r.groups.erase (group, []) } =
        .error (.emptyGroup name group) :=
  rfl

/-- Any of the empty groups in the first file that has one is named under some order, in which its
resource and the group itself come first. -/
theorem FirstEmptyGroup.exists_reordered {files : List Declared} {name group : String}
    (h : FirstEmptyGroup files name group) :
    ∃ files', List.Forall₂ Declared.Reordered files files' ∧
      mergeResources files' = .error (.emptyGroup name group) := by
  obtain ⟨n, hbefore, r, hr, hgroup⟩ := h
  rw [List.take_add_one, definition?_append, Option.or_eq_some_iff] at hr
  rcases hr with hr | ⟨hfresh, hr⟩
  · exact absurd ⟨r, hr, hgroup⟩ (hbefore name group)
  · obtain ⟨d, hd, hlookup⟩ := List.exists_of_findSome?_eq_some hr
    have hentry := NameTable.mem_of_lookup hlookup
    -- The file in which the resource stands in front, and in the resource the group.
    let r' : DeclaredResource := { r with groups := (group, []) :: r.groups.erase (group, []) }
    let d' : Declared := { d with resources := (name, r') :: d.resources.erase (name, r) }
    have hr' : r.Reordered r' := ⟨.refl _, List.perm_cons_erase hgroup, .refl _⟩
    have hd' : d.Reordered d' :=
      ⟨rfl, rfl, rfl, _, List.perm_cons_erase hentry,
        .cons ⟨rfl, hr'⟩ (List.forall₂_same.2 fun _ _ => ⟨rfl, .refl _⟩)⟩
    have hrefl : ∀ files, List.Forall₂ Declared.Reordered files files := fun files =>
      List.forall₂_same.2 fun _ _ => .refl _
    obtain ⟨hn, rfl⟩ := List.getElem?_eq_some_iff.1 (Option.mem_toList.1 hd)
    refine ⟨files.take n ++ d' :: files.drop (n + 1), ?_, ?_⟩
    · have h : List.Forall₂ Declared.Reordered
          (files.take n ++ files[n] :: files.drop (n + 1))
          (files.take n ++ d' :: files.drop (n + 1)) :=
        List.rel_append (hrefl _) (.cons hd' (hrefl _))
      rwa [← List.drop_eq_getElem_cons hn, List.take_append_drop] at h
    · have hnone := failure?_mergeResources_eq_none_iff.2 hbefore
      have hname : ¬ (((files.take n).flatMap (·.resources)).map Prod.fst).contains name := by
        simpa using definition?_eq_none_iff.1 hfresh
      rw [← failure?_eq_some_iff, failure?_mergeResources_append, hnone, Option.none_or,
        List.flatMap_cons, List.cons_append, firstDeclarations, if_neg hname,
        List.findSome?_cons, toResource_cons_empty]
      rfl

theorem exists_reordered_merge_eq_error_iff {files : List (String × Declared)}
    (hfiles : ∀ file ∈ files, file.2.Distinct) (err : SettingsError) :
    (∃ files', Reordered files files' ∧ merge files' = .error err) ↔
      ∃ name group, err = .emptyGroup name group ∧
        FirstEmptyGroup (files.map Prod.snd) name group := by
  simp only [← failure?_eq_some_iff, failure?_merge]
  constructor
  · rintro ⟨files', h, herr⟩
    obtain ⟨name, group, rfl, hfirst⟩ := firstEmptyGroup_of_error (failure?_eq_some_iff.1 herr)
    exact ⟨name, group, rfl, (firstEmptyGroup_iff (Entrywise.map_snd h)
      (List.forall_mem_map.2 hfiles) name group).2 hfirst⟩
  · rintro ⟨name, group, rfl, hfirst⟩
    obtain ⟨declared, hdeclared, herr⟩ := hfirst.exists_reordered
    obtain ⟨files', h, rfl⟩ := Entrywise.exists_of_map_snd hdeclared
    exact ⟨files', h, failure?_eq_some_iff.2 herr⟩

/-- **The order of entries bears on nothing but the choice between empty groups.** If files can be
merged, then the settings are the same for all orders of their entries; if not, then they cannot be
merged in any order. The errors that some order gives are the empty groups in the first file that
has one. So the outcome is the same for all orders exactly if that file has but one. -/
theorem merge_reordered (files : List (String × Declared))
    (hfiles : ∀ file ∈ files, file.2.Distinct) :
    (∀ files', Reordered files files' → ∀ s, merge files' = .ok s ↔ merge files = .ok s) ∧
    (∀ err, (∃ files', Reordered files files' ∧ merge files' = .error err) ↔
      ∃ name group, err = .emptyGroup name group ∧
        FirstEmptyGroup (files.map Prod.snd) name group) ∧
    ((∀ files', Reordered files files' → merge files' = merge files) ↔
      ∀ name group name' group', FirstEmptyGroup (files.map Prod.snd) name group →
        FirstEmptyGroup (files.map Prod.snd) name' group' → name = name' ∧ group = group') := by
  have herrors := exists_reordered_merge_eq_error_iff hfiles
  have hok : ∀ files', Reordered files files' →
      ∀ s, merge files' = .ok s ↔ merge files = .ok s := by
    refine fun files' h s => ⟨fun hs => ?_, merge_eq_ok_of_reordered h hfiles⟩
    obtain ⟨s₀, hs₀⟩ := failure?_eq_none_iff.1
      ((failure?_merge_reordered h hfiles).1 (failure?_eq_none_iff.2 ⟨s, hs⟩))
    rwa [← hs, merge_eq_ok_of_reordered h hfiles hs₀]
  refine ⟨hok, herrors, fun hsame name group name' group' hfirst hfirst' => ?_,
    fun hone files' h => ?_⟩
  · obtain ⟨files₁, h₁, herr₁⟩ := (herrors _).2 ⟨name, group, rfl, hfirst⟩
    obtain ⟨files₂, h₂, herr₂⟩ := (herrors _).2 ⟨name', group', rfl, hfirst'⟩
    rw [hsame _ h₁, ← hsame _ h₂, herr₂] at herr₁
    simpa [eq_comm] using herr₁
  · cases hs : merge files with
    | ok s => exact (hok files' h s).2 hs
    | error err =>
        cases hs' : merge files' with
        | ok s => simp [(hok files' h s).1 hs'] at hs
        | error err' =>
            obtain ⟨name, group, rfl, hfirst⟩ := (herrors err).1 ⟨files, .refl _, hs⟩
            obtain ⟨name', group', rfl, hfirst'⟩ := (herrors err').1 ⟨files', h, hs'⟩
            obtain ⟨rfl, rfl⟩ := hone _ _ _ _ hfirst hfirst'
            rfl

/-- A file with books whose groups have no members. -/
def unfinishedFile (groups : List String) : String × Declared :=
  ("/work/.shelf.toml", ⟨false, none, none, [("book", ⟨[], groups.map (·, []), []⟩)]⟩)

theorem reordered_unfinishedFile {groups groups' : List String} (h : groups.Perm groups') :
    Reordered [unfinishedFile groups] [unfinishedFile groups'] :=
  .cons ⟨rfl, rfl, rfl, rfl, _, .refl _, .cons ⟨rfl, .refl _, h.map _, .refl _⟩ .nil⟩ .nil

theorem distinct_unfinishedFile {groups : List String} (h : groups.Nodup) :
    ∀ file ∈ [unfinishedFile groups], file.2.Distinct := by
  refine List.forall_mem_singleton.2 ⟨List.pairwise_singleton _ _,
    List.forall_mem_singleton.2 ⟨?_, ?_, ?_⟩⟩
  · exact List.nodup_nil
  · simpa [Function.comp_def] using h
  · exact List.nodup_nil

/-- The text of a file in which both groups of books are empty. -/
def unfinishedText : String := "[resource.book.groups]\nnames = []\nplaces = []\n"

/-- A file that can be read has each name once. If both of its groups are empty, there is an order
in which the error is about the second one; with one empty group there is only one error. -/
theorem merge_reordered_unfinishedFile :
    Declared.parse? unfinishedText = some (unfinishedFile ["names", "places"]).2 ∧
    (∃ files', Reordered [unfinishedFile ["names", "places"]] files' ∧
      merge files' = .error (.emptyGroup "book" "places")) ∧
    ∀ files', Reordered [unfinishedFile ["names"]] files' →
      merge files' = merge [unfinishedFile ["names"]] := by
  have hread : Declared.parse? unfinishedText = some (unfinishedFile ["names", "places"]).2 := by
    decide +kernel
  have hdistinct : ∀ file ∈ [unfinishedFile ["names", "places"]], file.2.Distinct :=
    List.forall_mem_singleton.2 (Declared.distinct_of_parse? hread)
  refine ⟨hread, ?_, ?_⟩
  · refine ((merge_reordered _ hdistinct).2.1 _).2 ⟨"book", "places", rfl, 0, ?_, ?_⟩
    · rintro name group ⟨r, ⟨⟩, -⟩
    · exact ⟨_, rfl, by decide⟩
  · have honly : ∀ name group,
        FirstEmptyGroup ([unfinishedFile ["names"]].map Prod.snd) name group →
          name = "book" ∧ group = "names" := by
      rintro name group ⟨n, -, r, hr, hgroup⟩
      simp only [unfinishedFile, List.map_cons, List.map_nil, List.take_succ_cons, List.take_nil,
        definition?, List.findSome?_singleton] at hr
      obtain ⟨rfl, rfl⟩ := Prod.mk.inj (List.mem_singleton.1 (NameTable.mem_of_lookup hr))
      exact ⟨rfl, congrArg Prod.fst (List.mem_singleton.1 hgroup)⟩
    refine (merge_reordered _ (distinct_unfinishedFile (by decide))).2.2.2 ?_
    intro name group name' group' hfirst hfirst'
    obtain ⟨rfl, rfl⟩ := honly _ _ hfirst
    obtain ⟨rfl, rfl⟩ := honly _ _ hfirst'
    exact ⟨rfl, rfl⟩

/-- The order of the groups of a resource decides which of two empty ones the error names. -/
theorem not_forall_reordered_merge_eq :
    ¬ ∀ files files' : List (String × Declared), (∀ file ∈ files, file.2.Distinct) →
      Reordered files files' → merge files = merge files' := by
  intro h
  have hsame := h [unfinishedFile ["names", "places"]] [unfinishedFile ["places", "names"]]
    (distinct_unfinishedFile (by decide)) (reordered_unfinishedFile (List.Perm.swap _ _ _))
  have hnames : merge [unfinishedFile ["names", "places"]] =
      .error (.emptyGroup "book" "names") := rfl
  have hplaces : merge [unfinishedFile ["places", "names"]] =
      .error (.emptyGroup "book" "places") := rfl
  rw [hnames, hplaces] at hsame
  exact absurd hsame (by decide)

end Settings

end CatalogSearch
