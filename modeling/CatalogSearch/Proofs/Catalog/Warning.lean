import CatalogSearch.Catalog.Warning
import CatalogSearch.Proofs.Catalog.WellFormed
import Mathlib.Tactic.ByContra

/-!
What the warnings about names say. A member of a group is reported exactly if it is no field, and an
alias exactly if its target is neither a field nor a group; where there is no such warning, every
name that a resource gives leads to fields of it.
-/

namespace CatalogSearch

/-! ### The warnings about one resource -/

namespace Resource

variable {r : Resource} {resource : String}

theorem undefinedGroupMember_mem_warnings_iff {group field : String} :
    .undefinedGroupMember resource group field ∈ r.warnings ↔ r.name = resource ∧
      ∃ members, r.groups.get? group = some members ∧ field ∈ members ∧
        r.fields.contains field = false := by
  simp only [warnings, undefinedMembers, undefinedTargets, unusedSorts, List.mem_append,
    List.mem_flatMap, List.mem_map, List.mem_filter, Prod.exists, NameTable.mem_entries_iff,
    reduceCtorEq, and_false, exists_false, or_false, Warning.undefinedGroupMember.injEq,
    Bool.not_eq_true']
  constructor
  · rintro ⟨group', members, hmembers, field', ⟨hfield, hnone⟩, hname, rfl, rfl⟩
    exact ⟨hname, members, hmembers, hfield, hnone⟩
  · rintro ⟨hname, members, hmembers, hfield, hnone⟩
    exact ⟨group, members, hmembers, field, ⟨hfield, hnone⟩, hname, rfl, rfl⟩

theorem undefinedAliasTarget_mem_warnings_iff {name target : String} :
    .undefinedAliasTarget resource name target ∈ r.warnings ↔ r.name = resource ∧
      r.aliases.get? name = some target ∧ r.fields.contains target = false ∧
        r.groups.contains target = false := by
  simp only [warnings, undefinedMembers, undefinedTargets, unusedSorts, List.mem_append,
    List.mem_flatMap, List.mem_map, List.mem_filter, Prod.exists, NameTable.mem_entries_iff,
    reduceCtorEq, and_false, exists_false, or_false, false_or,
    Warning.undefinedAliasTarget.injEq, Bool.and_eq_true, Bool.not_eq_true']
  constructor
  · rintro ⟨name', target', ⟨htarget, hnone⟩, hname, rfl, rfl⟩
    exact ⟨hname, htarget, hnone⟩
  · rintro ⟨hname, htarget, hnone⟩
    exact ⟨name, target, ⟨htarget, hnone⟩, hname, rfl, rfl⟩

end Resource

/-! ### The warnings about a catalog -/

namespace Catalog

variable {k : Catalog}

theorem mem_warnings_iff {w : Warning} (hw : w ≠ .noResources) :
    w ∈ k.warnings ↔ ∃ name r, k.resource? name = some r ∧ w ∈ r.warnings := by
  have hflat : w ∈ k.warnings ↔ w ∈ k.resources.values.flatMap Resource.warnings := by
    rw [warnings]
    split
    · next hempty =>
        have hvalues : k.resources.values = [] := by
          rw [NameTable.values, List.isEmpty_iff.1 hempty, List.map_nil]
        simp [hvalues, hw]
    · exact Iff.rfl
  rw [hflat, List.mem_flatMap]
  simp only [NameTable.mem_values_iff]
  constructor
  · rintro ⟨r, ⟨name, hr⟩, hwarning⟩
    exact ⟨name, r, hr, hwarning⟩
  · rintro ⟨name, r, hr, hwarning⟩
    exact ⟨r, ⟨name, hr⟩, hwarning⟩

end Catalog

/-- A resource whose names lead to fields: each member of a group is one, and each alias stands for
one or for a group. -/
structure Resource.Linked (r : Resource) : Prop where
  members : ∀ group members, r.groups.get? group = some members →
    ∀ m ∈ members, r.fields.contains m = true
  targets : ∀ name target, r.aliases.get? name = some target →
    r.fields.contains target = true ∨ r.groups.contains target = true

theorem Catalog.linked_of_warnings {k : Catalog} (hwellFormed : k.WellFormed)
    (hmembers : ∀ resource group field, .undefinedGroupMember resource group field ∉ k.warnings)
    (htargets : ∀ resource name target, .undefinedAliasTarget resource name target ∉ k.warnings)
    {resource : String} {r : Resource} (hr : k.resource? resource = some r) : r.Linked where
  members group members hgroup m hm := by
    by_contra hfield
    have hwarning : .undefinedGroupMember resource group m ∈ r.warnings :=
      Resource.undefinedGroupMember_mem_warnings_iff.2
        ⟨hwellFormed.name hr, members, hgroup, hm, eq_false_of_ne_true hfield⟩
    exact hmembers _ _ _ ((mem_warnings_iff (by simp)).2 ⟨resource, r, hr, hwarning⟩)
  targets name target halias := by
    by_contra hnone
    rw [not_or, Bool.not_eq_true, Bool.not_eq_true] at hnone
    have hwarning : .undefinedAliasTarget resource name target ∈ r.warnings :=
      Resource.undefinedAliasTarget_mem_warnings_iff.2 ⟨hwellFormed.name hr, halias, hnone⟩
    exact htargets _ _ _ ((mem_warnings_iff (by simp)).2 ⟨resource, r, hr, hwarning⟩)

end CatalogSearch
