import CatalogSearch.Proofs.Toml.Distinct
import CatalogSearch.Settings.Declared

/-!
Names in what a file declares. The tables of a declaration are those of a TOML document, in which no
key is given twice, so that each table of it has each name once.
-/

namespace CatalogSearch

/-- A resource whose tables have each name once. -/
structure DeclaredResource.Distinct (r : DeclaredResource) : Prop where
  aliases : (r.aliases.map Prod.fst).Nodup
  groups : (r.groups.map Prod.fst).Nodup
  fields : (r.fields.map Prod.fst).Nodup

/-- A file whose tables have each name once. -/
structure Declared.Distinct (d : Declared) : Prop where
  names : (d.resources.map Prod.fst).Nodup
  resources : ∀ entry ∈ d.resources, entry.2.Distinct

namespace Declared

open Toml

variable {α : Type} {key : String} {v : Value} {entries : List (String × Value)}

/-! ### Members and tables -/

theorem distinct_of_entries? (hv : v.Distinct) (h : v.entries? = some entries) :
    (entries.map Prod.fst).Nodup ∧ ∀ e ∈ entries, e.2.Distinct := by
  cases hv with
  | table hkeys hentries =>
      cases h
      exact ⟨hkeys, hentries⟩
  | datetime d =>
      cases h
      exact ⟨List.pairwise_singleton _ _, List.forall_mem_singleton.2 (.string _)⟩
  | _ => cases h

theorem distinct_of_record? {names : List String} (hv : v.Distinct)
    (h : v.record? names = some entries) : ∀ e ∈ entries, e.2.Distinct := by
  cases hv with
  | array hitems =>
      cases h
      exact fun e he => hitems e.2 (List.of_mem_zip he).2
  | table hkeys hentries =>
      exact (distinct_of_entries? (.table hkeys hentries) h).2
  | datetime d => exact (distinct_of_entries? (.datetime d) h).2
  | _ => cases h

/-- A member that is read is the default, or comes from one of the entries. -/
theorem member?_eq_some {default a : α} {read : Value → Option α}
    (h : member? key default read entries = some a) :
    a = default ∨ ∃ e ∈ entries, read e.2 = some a := by
  obtain ⟨read?, hread, h⟩ := Option.bind_eq_some_iff.1 h
  cases h
  rw [optional?] at hread
  split at hread
  · cases hread
    exact Or.inl rfl
  · next w hw =>
      obtain ⟨b, hb, rfl⟩ := Option.map_eq_some_iff.1 hread
      exact Or.inr ⟨(key, w), NameTable.mem_of_lookup hw, hb⟩

theorem mapM_entries {read : Value → Option α} {xs : List (String × α)}
    (h : entries.mapM (fun (key, v) => do return (key, ← read v)) = some xs) :
    xs.map Prod.fst = entries.map Prod.fst ∧ ∀ x ∈ xs, ∃ e ∈ entries, read e.2 = some x.2 := by
  induction entries generalizing xs with
  | nil =>
      cases h
      exact ⟨rfl, fun x hx => absurd hx List.not_mem_nil⟩
  | cons e entries ih =>
      rw [List.mapM_cons] at h
      obtain ⟨x, hx, h⟩ := Option.bind_eq_some_iff.1 h
      obtain ⟨a, ha, hx⟩ := Option.bind_eq_some_iff.1 hx
      obtain ⟨more, hmore, h⟩ := Option.bind_eq_some_iff.1 h
      cases h
      cases hx
      obtain ⟨hnames, hvalues⟩ := ih hmore
      constructor
      · rw [List.map_cons, List.map_cons, hnames]
      · refine List.forall_mem_cons.2 ⟨⟨e, List.mem_cons_self, ha⟩, fun x hx => ?_⟩
        obtain ⟨e', he', hread⟩ := hvalues x hx
        exact ⟨e', List.mem_cons_of_mem _ he', hread⟩

/-- A table that is read has the keys of a table in the file, and no key twice. -/
theorem distinct_of_table? {read : Value → Option α} {xs : List (String × α)} (hv : v.Distinct)
    (h : table? read v = some xs) :
    (xs.map Prod.fst).Nodup ∧ ∀ x ∈ xs, ∃ w, w.Distinct ∧ read w = some x.2 := by
  obtain ⟨entries, hentries, h⟩ := Option.bind_eq_some_iff.1 h
  obtain ⟨hkeys, hvalues⟩ := distinct_of_entries? hv hentries
  obtain ⟨hnames, hread⟩ := mapM_entries h
  refine ⟨hnames ▸ hkeys, fun x hx => ?_⟩
  obtain ⟨e, he, hx⟩ := hread x hx
  exact ⟨e.2, hvalues e he, hx⟩

theorem nodup_of_member? {read : Value → Option α} {xs : List (String × α)}
    (hentries : ∀ e ∈ entries, e.2.Distinct)
    (h : member? key [] (table? read) entries = some xs) : (xs.map Prod.fst).Nodup := by
  rcases member?_eq_some h with rfl | ⟨e, he, hread⟩
  · exact List.nodup_nil
  · exact (distinct_of_table? (hentries e he) hread).1

/-! ### Declarations -/

theorem distinct_of_resource? {r : DeclaredResource} (hv : v.Distinct)
    (h : resource? v = some r) : r.Distinct := by
  obtain ⟨entries, hentries, h⟩ := Option.bind_eq_some_iff.1 h
  obtain ⟨aliases, haliases, h⟩ := Option.bind_eq_some_iff.1 h
  obtain ⟨groups, hgroups, h⟩ := Option.bind_eq_some_iff.1 h
  obtain ⟨fields, hfields, h⟩ := Option.bind_eq_some_iff.1 h
  cases h
  have hvalues := distinct_of_record? hv hentries
  exact ⟨nodup_of_member? hvalues haliases, nodup_of_member? hvalues hgroups,
    nodup_of_member? hvalues hfields⟩

/-- A file that can be read has each name once in each of its tables. -/
theorem distinct_of_parse? {text : String} {d : Declared} (h : parse? text = some d) :
    d.Distinct := by
  obtain ⟨v, hv, h⟩ := Option.bind_eq_some_iff.1 h
  obtain ⟨entries, hentries, h⟩ := Option.bind_eq_some_iff.1 h
  obtain ⟨browse, -, h⟩ := Option.bind_eq_some_iff.1 h
  obtain ⟨root, -, h⟩ := Option.bind_eq_some_iff.1 h
  obtain ⟨limit, -, h⟩ := Option.bind_eq_some_iff.1 h
  obtain ⟨offset, -, h⟩ := Option.bind_eq_some_iff.1 h
  obtain ⟨resources, hresources, h⟩ := Option.bind_eq_some_iff.1 h
  cases h
  have hvalues := (distinct_of_entries? (distinct_parse? hv) hentries).2
  refine ⟨nodup_of_member? hvalues hresources, ?_⟩
  rcases member?_eq_some hresources with rfl | ⟨e, he, hread⟩
  · exact fun entry hentry => absurd hentry List.not_mem_nil
  · intro entry hentry
    obtain ⟨w, hw, hresource⟩ := (distinct_of_table? (hvalues e he) hread).2 entry hentry
    exact distinct_of_resource? hw hresource

end Declared

end CatalogSearch
