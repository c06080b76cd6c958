import CatalogSearch.Proofs.Catalog.WellFormed
import CatalogSearch.Proofs.Except
import CatalogSearch.Settings.Basic

/-!
Which definition of a resource counts. Where several files define a resource, the first definition
is taken as a whole, and the ones behind it are not looked at. So the files make a catalog exactly
if no definition that counts has a group without members, and the catalog then holds the resources
of these definitions and no others.
-/

namespace CatalogSearch

/-! ### The resource of one definition -/

namespace DeclaredResource

variable {r : DeclaredResource} {name : String}

theorem mem_groups_of_find? {group : String} {members : List String}
    (h : r.groups.find? (fun group => group.2.isEmpty) = some (group, members)) :
    (group, []) ∈ r.groups := by
  obtain rfl : members = [] := by simpa using (List.find?_eq_some_iff_append.1 h).1
  exact List.mem_of_find?_eq_some h

theorem toResource_eq_ok_iff {res : Resource} :
    r.toResource name = .ok res ↔ (∀ group, (group, []) ∉ r.groups) ∧ res = {
      name := name
      aliases := .ofList r.aliases
      groups := .ofList r.groups
      fields := .ofList (r.fields.map fun (path, f) => (path, f.toField path)) } := by
  rw [toResource]
  split
  · next group members hempty =>
      exact iff_of_false (by simp) fun h => h.1 group (mem_groups_of_find? hempty)
  · next hnone =>
      have hmembers : ∀ group, (group, []) ∉ r.groups := fun group hgroup =>
        List.find?_eq_none.1 hnone _ hgroup rfl
      rw [and_iff_right hmembers, Except.ok.injEq]
      exact eq_comm

theorem toResource_eq_error {err : SettingsError} (h : r.toResource name = .error err) :
    ∃ group, (group, []) ∈ r.groups ∧ err = .emptyGroup name group := by
  rw [toResource] at h
  split at h
  · next group members hempty =>
      exact ⟨group, mem_groups_of_find? hempty, (Except.error.inj h).symm⟩
  · cases h

theorem failure?_toResource_eq_none_iff :
    failure? (r.toResource name) = none ↔ ∀ group, (group, []) ∉ r.groups := by
  rw [failure?_eq_none_iff]
  constructor
  · rintro ⟨res, h⟩
    exact (toResource_eq_ok_iff.1 h).1
  · intro h
    exact ⟨_, toResource_eq_ok_iff.2 ⟨h, rfl⟩⟩

end DeclaredResource

/-! ### Entries with related values -/

theorem rel_iff {α β : Type} {R : α → β → Prop} {x : Option α} {y : Option β} :
    Option.Rel R x y ↔ x = none ∧ y = none ∨ ∃ a b, x = some a ∧ y = some b ∧ R a b := by
  constructor
  · rintro (h | _)
    · exact Or.inr ⟨_, _, rfl, rfl, h⟩
    · exact Or.inl ⟨rfl, rfl⟩
  · rintro (⟨rfl, rfl⟩ | ⟨a, b, rfl, rfl, h⟩)
    · exact .none
    · exact .some h

/-- Entries under the same names in the same order, whose values are related name by name. -/
def Entrywise {α β : Type} (R : String → α → β → Prop) (xs : List (String × α))
    (ys : List (String × β)) : Prop :=
  List.Forall₂ (fun x y => x.1 = y.1 ∧ R x.1 x.2 y.2) xs ys

namespace Entrywise

variable {α β : Type} {R : String → α → β → Prop} {xs : List (String × α)} {ys : List (String × β)}

theorem map_fst_eq (h : Entrywise R xs ys) : xs.map Prod.fst = ys.map Prod.fst := by
  induction h with
  | nil => rfl
  | cons hxy _ ih => rw [List.map_cons, List.map_cons, hxy.1, ih]

theorem map_snd {R : α → β → Prop} (h : Entrywise (fun _ => R) xs ys) :
    List.Forall₂ R (xs.map Prod.snd) (ys.map Prod.snd) :=
  List.forall₂_map_left_iff.2 (List.forall₂_map_right_iff.2 (h.imp fun _ _ hxy => hxy.2))

theorem exists_of_map_snd {R : α → β → Prop} {bs : List β}
    (h : List.Forall₂ R (xs.map Prod.snd) bs) :
    ∃ ys, Entrywise (fun _ => R) xs ys ∧ ys.map Prod.snd = bs := by
  induction xs generalizing bs with
  | nil =>
      cases h
      exact ⟨[], .nil, rfl⟩
  | cons x xs ih =>
      obtain _ | ⟨hx, hxs⟩ := h
      obtain ⟨ys, hys, rfl⟩ := ih hxs
      exact ⟨(x.1, _) :: ys, .cons ⟨rfl, hx⟩ hys, rfl⟩

theorem lookup (h : Entrywise R xs ys) (name : String) :
    Option.Rel (R name) (xs.lookup name) (ys.lookup name) := by
  induction h with
  | nil => exact .none
  | @cons x y xs ys hxy _ ih =>
      obtain ⟨hname, hvalue⟩ := hxy
      rw [List.lookup_cons, List.lookup_cons, ← hname]
      by_cases h : name = x.1
      · subst h
        simpa using hvalue
      · rw [beq_false_of_ne h]
        exact ih

end Entrywise

namespace Settings

/-! ### First declarations -/

theorem lookup_firstDeclarations (seen : List String) (ds : List (String × DeclaredResource))
    (name : String) :
    (firstDeclarations seen ds).lookup name = if name ∈ seen then none else ds.lookup name := by
  induction ds generalizing seen with
  | nil => simp [firstDeclarations]
  | cons d ds ih => grind [firstDeclarations]

theorem notMem_of_mem_firstDeclarations {seen : List String}
    {ds : List (String × DeclaredResource)} {name : String}
    (h : name ∈ (firstDeclarations seen ds).map Prod.fst) : name ∉ seen := by
  induction ds generalizing seen with
  | nil => cases h
  | cons d ds ih => grind [firstDeclarations]

theorem nodup_firstDeclarations (seen : List String) (ds : List (String × DeclaredResource)) :
    ((firstDeclarations seen ds).map Prod.fst).Nodup := by
  induction ds generalizing seen with
  | nil => exact List.nodup_nil
  | cons d ds ih =>
      rw [firstDeclarations]
      split
      · exact ih seen
      · refine List.nodup_cons.2 ⟨fun h => ?_, ih _⟩
        exact notMem_of_mem_firstDeclarations h List.mem_cons_self

theorem firstDeclarations_congr {seen seen' : List String} (h : ∀ name, name ∈ seen ↔ name ∈ seen')
    (ds : List (String × DeclaredResource)) :
    firstDeclarations seen ds = firstDeclarations seen' ds := by
  induction ds generalizing seen seen' with
  | nil => rfl
  | cons d ds ih => grind [firstDeclarations]

/-- What has been declared so far is passed over in what follows. -/
theorem firstDeclarations_append (seen : List String) (ds es : List (String × DeclaredResource)) :
    firstDeclarations seen (ds ++ es) =
      firstDeclarations seen ds ++ firstDeclarations (ds.map Prod.fst ++ seen) es := by
  induction ds generalizing seen with
  | nil => rfl
  | cons d ds ih =>
      rw [List.cons_append, firstDeclarations, firstDeclarations]
      split
      · rw [ih]
        congr 1
        apply firstDeclarations_congr
        grind
      · rw [ih, List.cons_append]
        congr 2
        apply firstDeclarations_congr
        grind

/-! ### The definition that counts -/

/-- The definition of a resource that counts is that of the first file which has one. -/
def definition? (files : List Declared) (name : String) : Option DeclaredResource :=
  files.findSome? fun d => d.resources.lookup name

/-- A group without members, in the definition of a resource that counts. -/
def EmptyGroup (files : List Declared) (name group : String) : Prop :=
  ∃ r, definition? files name = some r ∧ (group, []) ∈ r.groups

theorem definition?_append (files more : List Declared) (name : String) :
    definition? (files ++ more) name = (definition? files name).or (definition? more name) :=
  List.findSome?_append

theorem lookup_flatMap_resources (files : List Declared) (name : String) :
    (files.flatMap (·.resources)).lookup name = definition? files name := by
  induction files with
  | nil => rfl
  | cons d files ih =>
      rw [List.flatMap_cons, List.lookup_append, ih, ← List.singleton_append, definition?_append]
      simp [definition?]

theorem definition?_eq_none_iff {files : List Declared} {name : String} :
    definition? files name = none ↔ name ∉ (files.flatMap (·.resources)).map Prod.fst := by
  rw [← lookup_flatMap_resources, List.lookup_eq_none_iff, List.mem_map, not_exists]
  simp only [bne_iff_ne, not_and, ne_comm]

theorem mem_firstDeclarations_iff {files : List Declared} {name : String} {r : DeclaredResource} :
    (name, r) ∈ firstDeclarations [] (files.flatMap (·.resources)) ↔
      definition? files name = some r := by
  have hlookup := lookup_firstDeclarations [] (files.flatMap (·.resources)) name
  rw [if_neg List.not_mem_nil, lookup_flatMap_resources] at hlookup
  rw [← hlookup]
  exact ⟨NameTable.lookup_of_mem (nodup_firstDeclarations _ _), NameTable.mem_of_lookup⟩

/-! ### The catalog of files -/

theorem mergeResources_eq_ok_iff {files : List Declared} {k : Catalog} :
    mergeResources files = .ok k ↔ ∃ resources,
      Entrywise (fun name r res => r.toResource name = .ok res)
        (firstDeclarations [] (files.flatMap (·.resources))) resources ∧
      k = ⟨.ofList resources⟩ := by
  have hstep : ∀ (x : String × DeclaredResource) (y : String × Resource),
      (∃ res, x.2.toResource x.1 = .ok res ∧ (x.1, res) = y) ↔
        x.1 = y.1 ∧ x.2.toResource x.1 = .ok y.2 := by
    rintro x ⟨name, res⟩
    constructor
    · rintro ⟨res, hres, ⟨⟩⟩
      exact ⟨rfl, hres⟩
    · rintro ⟨rfl, hres⟩
      exact ⟨res, hres, rfl⟩
  simp only [mergeResources, bind_eq_ok_iff, mapM_eq_ok_iff, pure, Except.pure, Except.ok.injEq,
    hstep, Entrywise]
  exact exists_congr fun resources => and_congr_right fun _ => eq_comm

/-- The catalog of files holds the resources of the definitions that count. -/
theorem resource?_of_mergeResources {files : List Declared} {k : Catalog}
    (h : mergeResources files = .ok k) (name : String) (res : Resource) :
    k.resource? name = some res ↔
      ∃ r, definition? files name = some r ∧ r.toResource name = .ok res := by
  obtain ⟨resources, hresources, rfl⟩ := mergeResources_eq_ok_iff.1 h
  have hnodup : (resources.map Prod.fst).Nodup :=
    hresources.map_fst_eq ▸ nodup_firstDeclarations _ _
  have hrel := hresources.lookup name
  rw [lookup_firstDeclarations, if_neg List.not_mem_nil, lookup_flatMap_resources] at hrel
  rw [Catalog.resource?, NameTable.get?_ofList hnodup]
  rcases rel_iff.1 hrel with ⟨hr, hres⟩ | ⟨r, res', hr, hres, hstep⟩
  · simp [hr, hres]
  · rw [hr, hres]
    constructor
    · rintro ⟨⟩
      exact ⟨r, rfl, hstep⟩
    · rintro ⟨_, ⟨⟩, hstep'⟩
      rw [Except.ok.inj (hstep.symm.trans hstep')]

/-- The fields of a catalog are described by declarations under their paths. -/
theorem exists_toField_of_field? {files : List Declared} {k : Catalog}
    (h : mergeResources files = .ok k) {resource path : String} {f : Field}
    (hf : k.field? resource path = some f) : ∃ d : DeclaredField, f = d.toField path := by
  obtain ⟨res, hres, hf⟩ := Catalog.field?_eq_some_iff.1 hf
  obtain ⟨r, -, hr⟩ := (resource?_of_mergeResources h _ _).1 hres
  obtain ⟨-, rfl⟩ := DeclaredResource.toResource_eq_ok_iff.1 hr
  obtain ⟨⟨path', d⟩, -, hd⟩ := List.mem_map.1 (NameTable.mem_of_get?_ofList hf)
  obtain ⟨rfl, rfl⟩ := Prod.mk.inj hd
  exact ⟨d, rfl⟩

theorem failure?_mergeResources (files : List Declared) :
    failure? (mergeResources files) =
      (firstDeclarations [] (files.flatMap (·.resources))).findSome? fun x =>
        failure? (x.2.toResource x.1) := by
  rw [mergeResources, failure?_bind_pure, failure?_mapM]
  congr 1
  funext x
  exact failure?_bind_pure _ _

theorem failure?_mergeResources_eq_none_iff {files : List Declared} :
    failure? (mergeResources files) = none ↔ ∀ name group, ¬ EmptyGroup files name group := by
  rw [failure?_mergeResources, List.findSome?_eq_none_iff]
  simp only [DeclaredResource.failure?_toResource_eq_none_iff, Prod.forall,
    mem_firstDeclarations_iff, EmptyGroup, not_exists, not_and]
  exact ⟨fun h name group r hr => h name r hr group, fun h name r hr group => h name group r hr⟩

/-- Files that come later are looked at only if those before them make a catalog. -/
theorem failure?_mergeResources_append (files more : List Declared) :
    failure? (mergeResources (files ++ more)) = (failure? (mergeResources files)).or
      ((firstDeclarations ((files.flatMap (·.resources)).map Prod.fst)
        (more.flatMap (·.resources))).findSome? fun x => failure? (x.2.toResource x.1)) := by
  rw [failure?_mergeResources, failure?_mergeResources, List.flatMap_append,
    firstDeclarations_append, List.append_nil, List.findSome?_append]

theorem wellFormed_of_mergeResources {files : List Declared} {k : Catalog}
    (h : mergeResources files = .ok k) : k.WellFormed where
  name hr := by
    obtain ⟨r, -, hr⟩ := (resource?_of_mergeResources h _ _).1 hr
    rw [(DeclaredResource.toResource_eq_ok_iff.1 hr).2]
  path hf := by
    obtain ⟨d, rfl⟩ := exists_toField_of_field? h hf
    rfl
  capabilities hf := by
    obtain ⟨d, rfl⟩ := exists_toField_of_field? h hf
    exact List.Pairwise.filter _ (by decide)
  members hr hgroup := by
    obtain ⟨r, -, hr⟩ := (resource?_of_mergeResources h _ _).1 hr
    obtain ⟨hmembers, rfl⟩ := DeclaredResource.toResource_eq_ok_iff.1 hr
    rintro rfl
    exact hmembers _ (NameTable.mem_of_get?_ofList hgroup)

/-! ### Settings from files -/

theorem merge_eq_ok_iff {files : List (String × Declared)} {s : Settings} :
    merge files = .ok s ↔ ∃ k, mergeResources (files.map Prod.snd) = .ok k ∧
      s = ⟨mergeBrowse (files.map Prod.snd), k,
        files.head?.bind fun file => Path.parent? file.1⟩ := by
  simp only [merge, bind_eq_ok_iff, pure, Except.pure, Except.ok.injEq]
  exact exists_congr fun k => and_congr_right fun _ => eq_comm

theorem failure?_merge (files : List (String × Declared)) :
    failure? (merge files) = failure? (mergeResources (files.map Prod.snd)) :=
  failure?_bind_pure _ _

/-- Settings that files yield, or a text. -/
inductive Loaded : Settings → Prop where
  | merge {files : List (String × Declared)} {s : Settings} (h : merge files = .ok s) : Loaded s
  | ofText {text : String} {s : Settings} (h : ofText text = .ok s) : Loaded s

theorem Loaded.wellFormed {s : Settings} (h : s.Loaded) : s.catalog.WellFormed := by
  cases h with
  | merge h =>
      obtain ⟨k, hk, rfl⟩ := merge_eq_ok_iff.1 h
      exact wellFormed_of_mergeResources hk
  | ofText h =>
      obtain ⟨d, -, h⟩ := bind_eq_ok_iff.1 h
      obtain ⟨merged, hmerged, h⟩ := bind_eq_ok_iff.1 h
      obtain ⟨k, hk, rfl⟩ := merge_eq_ok_iff.1 hmerged
      obtain rfl := Except.ok.inj h
      exact wellFormed_of_mergeResources hk

end Settings

end CatalogSearch
