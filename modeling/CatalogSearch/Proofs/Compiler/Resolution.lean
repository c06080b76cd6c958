import CatalogSearch.Proofs.Catalog.Warning
import CatalogSearch.Proofs.Compiler.Refusal
import CatalogSearch.Proofs.Settings.Definition

/-!
Names that resolve. Warnings look at groups and aliases of a resource, one table after the other;
a clause goes from its index through the aliases to a group, a member or a field. If there is no
warning about names, then no name that a resource gives can be an invalid field, and an alias that
there is a warning about is one in every clause.
-/

namespace CatalogSearch

/-- A name that a resource gives a meaning, possibly more than one. -/
def Resource.Gives (r : Resource) (name : String) : Prop :=
  r.aliases.contains name = true ∨ r.groups.contains name = true ∨ r.fields.contains name = true

namespace Compiler

variable {k : Catalog} {resource : String} {r : Resource}

/-- The alias of a name that a resource gives leads to a field or a group. -/
theorem contains_resolveAlias (hr : k.resource? resource = some r) (hlinked : r.Linked)
    {name : String} (hname : r.Gives name) :
    r.groups.contains (k.resolveAlias resource name) = true ∨
      r.fields.contains (k.resolveAlias resource name) = true := by
  rw [Catalog.resolveAlias_of_resource? hr]
  cases halias : r.aliases.get? name with
  | some target => exact (hlinked.targets name target halias).symm
  | none =>
      rcases hname with hname | hname
      · rw [NameTable.contains_eq_false_iff.2 halias] at hname
        cases hname
      · exact hname

/-- A field or a group can be the target of a clause if the members of groups are fields. -/
theorem exists_target (hwellFormed : k.WellFormed) (hr : k.resource? resource = some r)
    (hlinked : r.Linked) {path : String}
    (hpath : r.groups.contains path = true ∨ r.fields.contains path = true) :
    ∃ t, target? k resource path = some t := by
  have hfield : ∀ path, r.fields.contains path = true →
      ∃ t, (k.field? resource path).map Target.field = some t := by
    intro path hpath
    obtain ⟨f, hf⟩ := Option.isSome_iff_exists.1 hpath
    exact ⟨.field f, by rw [Catalog.field?_of_resource? hr, hf, Option.map_some]⟩
  rw [target?, Catalog.resolveGroup_of_resource? hr]
  cases hgroup : r.groups.get? path with
  | none =>
      apply hfield
      rcases hpath with hpath | hpath
      · rw [NameTable.contains_eq_false_iff.2 hgroup] at hpath
        cases hpath
      · exact hpath
  | some members =>
      rw [Option.getD_some]
      split
      · exact absurd rfl (hwellFormed.members hr hgroup)
      · next only => exact hfield only (hlinked.members _ _ hgroup only (List.mem_singleton_self _))
      · exact ⟨_, rfl⟩

/-- An error of a clause that has a target is not about its index. -/
theorem clauseQuery_ne_invalidField {c : Compiler} (hdispatch : c.dispatch.OnlyRefuses)
    {clause : Clause}
    (ht : ∃ t, target? c.catalog resource (c.catalog.resolveAlias resource clause.index) = some t)
    (field name : String) : c.clauseQuery resource clause ≠ .error (.invalidField field name) := by
  intro h
  obtain ⟨t, ht⟩ := ht
  rcases clauseFault_of_clauseQuery hdispatch h with hnone | _ | _ | ⟨-, ⟨⟩⟩
  rw [ht] at hnone
  cases hnone

/-- A clause on an alias that leads nowhere is turned down, unless it asks for all records. -/
theorem clauseQuery_eq_invalidField {c : Compiler} (hr : c.catalog.resource? resource = some r)
    {clause : Clause} {target : String} (halias : r.aliases.get? clause.index = some target)
    (hfields : r.fields.contains target = false) (hgroups : r.groups.contains target = false)
    (hall : isMatchAll clause = false) :
    c.clauseQuery resource clause = .error (.invalidField target resource) := by
  have hfield : c.catalog.field? resource target = none := by
    rw [Catalog.field?_of_resource? hr]
    exact NameTable.contains_eq_false_iff.1 hfields
  have hgroup : r.groups.get? target = none := NameTable.contains_eq_false_iff.1 hgroups
  have htarget : target? c.catalog resource target = none := by
    rw [target?, Catalog.resolveGroup_of_resource? hr, hgroup]
    simp only [Option.getD_none, hfield, Option.map_none]
  rw [clauseQuery, hall, if_neg Bool.false_ne_true]
  simp only [Catalog.resolveAlias_of_resource? hr, halias, Option.getD_some, htarget]

/-- **Without warnings about names, all names resolve.** If no warning about settings says that a
member of a group or the target of an alias is unknown, then no clause on an alias, a group or a
field of a resource is turned down as one on an invalid field, whatever comparator, value and
modifiers it has. With such a warning about an alias, every clause on it is, unless it asks for all
records. -/
theorem clauseQuery_of_warnings {s : Settings} (h : s.Loaded) :
    ((∀ resource group field, .undefinedGroupMember resource group field ∉ s.warnings) →
      (∀ resource name target, .undefinedAliasTarget resource name target ∉ s.warnings) →
      ∀ normalizers browse resource r (clause : Clause),
        s.catalog.resource? resource = some r → r.Gives clause.index →
          ∀ field name, Compiler.clauseQuery ⟨s.catalog, normalizers, .standard, browse⟩ resource
            clause ≠ .error (.invalidField field name)) ∧
    ∀ resource name target, .undefinedAliasTarget resource name target ∈ s.warnings →
      ∀ normalizers dispatch browse (clause : Clause),
        clause.index = name → isMatchAll clause = false →
          Compiler.clauseQuery ⟨s.catalog, normalizers, dispatch, browse⟩ resource clause =
            .error (.invalidField target resource) := by
  have hwellFormed := h.wellFormed
  constructor
  · intro hmembers htargets normalizers browse resource r clause hr hgives
    have hlinked := Catalog.linked_of_warnings hwellFormed hmembers htargets hr
    refine clauseQuery_ne_invalidField Dispatch.onlyRefuses_standard ?_
    exact exists_target hwellFormed hr hlinked (contains_resolveAlias hr hlinked hgives)
  · intro resource name target hwarning normalizers dispatch browse clause hindex hall
    obtain ⟨resource', r, hr, hwarning⟩ := (Catalog.mem_warnings_iff (by simp)).1 hwarning
    obtain ⟨hresource, halias, hfields, hgroups⟩ :=
      Resource.undefinedAliasTarget_mem_warnings_iff.1 hwarning
    obtain rfl := (hwellFormed.name hr).symm.trans hresource
    exact clauseQuery_eq_invalidField hr (hindex ▸ halias) hfields hgroups hall

/-- A file in which titles are an alias and a field, and authors a group and a field. -/
def sharedNames : String :=
  "[resource.book.aliases]\ntitle = 'names'\n" ++
  "[resource.book.groups]\nnames = ['author', 'title']\nauthor = ['title']\n" ++
  "[resource.book.fields.author]\n[resource.book.fields.title]\n"

/-- A file whose only alias stands for a name that is nothing. -/
def lostAlias : String := "[resource.book.aliases]\nshelf = 'place'\n"

/-- Titles are not an invalid field, whatever of the three meanings counts; shelves are one. -/
theorem clauseQuery_of_warnings_titles :
    ∃ s s', Settings.ofText sharedNames = .ok s ∧ Settings.ofText lostAlias = .ok s' ∧
      (∀ (comparator term : String) (modifiers : List Modifier) (field name : String),
        (standard s).clauseQuery "book" ⟨"title", comparator, term, modifiers⟩ ≠
          .error (.invalidField field name)) ∧
      (standard s').clauseQuery "book" ⟨"shelf", "=", "A", []⟩ =
        .error (.invalidField "place" "book") := by
  let whole (path : String) : String × Field := (path, ⟨path, [], false, none, .keyword, none⟩)
  let r : Resource := {
    name := "book"
    aliases := .ofList [("title", "names")]
    groups := .ofList [("names", ["author", "title"]), ("author", ["title"])]
    fields := .ofList [whole "author", whole "title"] }
  let r' : Resource := ⟨"book", .ofList [("shelf", "place")], .empty, .empty⟩
  let s : Settings := ⟨.standard, ⟨.ofList [("book", r)]⟩, none⟩
  let s' : Settings := ⟨.standard, ⟨.ofList [("book", r')]⟩, none⟩
  have hs : Settings.ofText sharedNames = .ok s := by decide +kernel
  have hs' : Settings.ofText lostAlias = .ok s' := by decide +kernel
  have hwarnings : s.warnings = [] := by decide +kernel
  have hwarning : .undefinedAliasTarget "book" "shelf" "place" ∈ s'.warnings := by decide +kernel
  have hr : s.catalog.resource? "book" = some r := by decide +kernel
  have htitle : r.aliases.contains "title" = true := by decide +kernel
  refine ⟨s, s', hs, hs', fun comparator term modifiers => ?_, ?_⟩
  · refine (clauseQuery_of_warnings (.ofText hs)).1 ?_ ?_ .standard .standard "book" r
      ⟨"title", comparator, term, modifiers⟩ hr (Or.inl htitle)
    · simp [hwarnings]
    · simp [hwarnings]
  · exact (clauseQuery_of_warnings (.ofText hs')).2 "book" "shelf" "place" hwarning .standard
      .standard .standard ⟨"shelf", "=", "A", []⟩ rfl (by decide +kernel)

end Compiler

end CatalogSearch
