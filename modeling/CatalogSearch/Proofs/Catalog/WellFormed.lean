import CatalogSearch.Catalog.Basic

/-!
What holds of every catalog that comes from files. Resources and fields are held under their own
names, so that the names which a field gives of itself say where it is to be found, and the fields
that name a normalizer are listed in the order of these names.
-/

namespace CatalogSearch

/-- A catalog in which resources and fields are held under their own names, capabilities are listed
in order without repetition, and groups have members. -/
structure Catalog.WellFormed (k : Catalog) : Prop where
  name : ∀ {name r}, k.resource? name = some r → r.name = name
  path : ∀ {resource path f}, k.field? resource path = some f → f.path = path
  capabilities : ∀ {resource path f}, k.field? resource path = some f →
    f.capabilities.Pairwise fun c later => Capability.all.idxOf c < Capability.all.idxOf later
  members : ∀ {name r group members}, k.resource? name = some r →
    r.groups.get? group = some members → members ≠ []

/-- The order by resource and then by path. -/
def NormalizerReference.Before (a b : NormalizerReference) : Prop :=
  a.resource < b.resource ∨ a.resource = b.resource ∧ a.field < b.field

namespace Catalog

variable {k : Catalog} {resource path : String} {f : Field}

theorem field?_eq_some_iff : k.field? resource path = some f ↔
    ∃ r, k.resource? resource = some r ∧ r.fields.get? path = some f :=
  Option.bind_eq_some_iff

theorem field?_of_resource? {r : Resource} (hr : k.resource? resource = some r) (path : String) :
    k.field? resource path = r.fields.get? path := by
  rw [field?, hr]
  rfl

theorem resolveAlias_of_resource? {r : Resource} (hr : k.resource? resource = some r)
    (name : String) : k.resolveAlias resource name = (r.aliases.get? name).getD name := by
  rw [resolveAlias, hr]

theorem resolveGroup_of_resource? {r : Resource} (hr : k.resource? resource = some r)
    (name : String) : k.resolveGroup resource name = (r.groups.get? name).getD [] := by
  rw [resolveGroup, hr]

theorem mem_normalizerReferences_iff {ref : NormalizerReference} :
    ref ∈ k.normalizerReferences ↔ ∃ resource path r f, k.resource? resource = some r ∧
      r.fields.get? path = some f ∧ f.normalizer = some ref.normalizer ∧
      r.name = ref.resource ∧ f.path = ref.field := by
  simp only [normalizerReferences, Resource.normalizerReferences, List.mem_flatMap,
    List.mem_filterMap, NameTable.mem_values_iff, Option.map_eq_some_iff]
  constructor
  · rintro ⟨r, ⟨resource, hr⟩, f, ⟨path, hf⟩, n, hn, rfl⟩
    exact ⟨resource, path, r, f, hr, hf, hn, rfl, rfl⟩
  · rintro ⟨resource, path, r, f, hr, hf, hn, hresource, hpath⟩
    refine ⟨r, ⟨resource, hr⟩, f, ⟨path, hf⟩, _, hn, ?_⟩
    rw [hresource, hpath]

/-- The names that a reference holds lead to the field that it is about. -/
theorem WellFormed.mem_normalizerReferences_iff (h : k.WellFormed) {ref : NormalizerReference} :
    ref ∈ k.normalizerReferences ↔
      ∃ f, k.field? ref.resource ref.field = some f ∧ f.normalizer = some ref.normalizer := by
  simp only [Catalog.mem_normalizerReferences_iff, field?_eq_some_iff]
  constructor
  · rintro ⟨resource, path, r, f, hr, hf, hn, hresource, hpath⟩
    obtain rfl := (h.name hr).symm.trans hresource
    obtain rfl := (h.path (field?_eq_some_iff.2 ⟨r, hr, hf⟩)).symm.trans hpath
    exact ⟨f, ⟨r, hr, hf⟩, hn⟩
  · rintro ⟨f, ⟨r, hr, hf⟩, hn⟩
    exact ⟨_, _, r, f, hr, hf, hn, h.name hr, h.path (field?_eq_some_iff.2 ⟨r, hr, hf⟩)⟩

/-- The fields that name a normalizer are listed by resource and then by path. -/
theorem WellFormed.normalizerReferences_ordered (h : k.WellFormed) :
    k.normalizerReferences.Pairwise NormalizerReference.Before := by
  refine List.pairwise_flatMap.2 ⟨fun r hr => ?_, ?_⟩
  · obtain ⟨resource, hr⟩ := NameTable.mem_values_iff.1 hr
    refine List.pairwise_filterMap.2 (List.pairwise_map.2 (r.fields.ordered.imp_of_mem ?_))
    rintro ⟨path, f⟩ ⟨path', f'⟩ hf hf' hlt ref href ref' href'
    obtain ⟨n, -, rfl⟩ := Option.map_eq_some_iff.1 href
    obtain ⟨n', -, rfl⟩ := Option.map_eq_some_iff.1 href'
    have hpath : f.path = path :=
      h.path (field?_eq_some_iff.2 ⟨r, hr, NameTable.mem_entries_iff.1 hf⟩)
    have hpath' : f'.path = path' :=
      h.path (field?_eq_some_iff.2 ⟨r, hr, NameTable.mem_entries_iff.1 hf'⟩)
    exact Or.inr ⟨rfl, by rwa [hpath, hpath']⟩
  · refine List.pairwise_map.2 (k.resources.ordered.imp_of_mem ?_)
    rintro ⟨name, r⟩ ⟨name', r'⟩ hr hr' hlt ref href ref' href'
    obtain ⟨f, -, hf⟩ := List.mem_filterMap.1 href
    obtain ⟨f', -, hf'⟩ := List.mem_filterMap.1 href'
    obtain ⟨n, -, rfl⟩ := Option.map_eq_some_iff.1 hf
    obtain ⟨n', -, rfl⟩ := Option.map_eq_some_iff.1 hf'
    have hname : r.name = name := h.name (NameTable.mem_entries_iff.1 hr)
    have hname' : r'.name = name' := h.name (NameTable.mem_entries_iff.1 hr')
    exact Or.inl (by rwa [hname, hname'])

end Catalog

end CatalogSearch
