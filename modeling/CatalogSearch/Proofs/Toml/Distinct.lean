import CatalogSearch.NameTable
import CatalogSearch.Toml.Reader

/-!
Keys of TOML documents. Statements only ever add a key that a table does not have, or change what is
under one that it has. So no table of a document that can be read has a key twice, however its
tables were put together and also where they are written inline.
-/

namespace CatalogSearch.Toml

/-- A value in which no table has a key twice. -/
inductive Value.Distinct : Value → Prop where
  | string (s : String) : Distinct (.string s)
  | integer (n : Int) : Distinct (.integer n)
  | float : Distinct .float
  | boolean (b : Bool) : Distinct (.boolean b)
  | datetime (d : Datetime) : Distinct (.datetime d)
  | array {items : List Value} (h : ∀ v ∈ items, v.Distinct) : Distinct (.array items)
  | table {entries : List (String × Value)} (hkeys : (entries.map Prod.fst).Nodup)
      (h : ∀ e ∈ entries, e.2.Distinct) : Distinct (.table entries)

/-- A part of a document under construction in which no table has a key twice. -/
inductive Node.Distinct : Node → Prop where
  | leaf {v : Value} (h : v.Distinct) : Distinct (.leaf v)
  | table (origin : Origin) {es : Entries} (hkeys : (es.map Prod.fst).Nodup)
      (h : ∀ e ∈ es, e.2.Distinct) : Distinct (.table origin es)
  | tables {earlier : List Entries} {last : Entries}
      (hkeys : ∀ es ∈ earlier ++ [last], (es.map Prod.fst).Nodup)
      (h : ∀ es ∈ earlier ++ [last], ∀ e ∈ es, e.2.Distinct) : Distinct (.tables earlier last)

/-- Entries among which no key is twice, on any level. -/
structure Entries.Distinct (es : Entries) : Prop where
  keys : (es.map Prod.fst).Nodup
  nodes : ∀ e ∈ es, e.2.Distinct

theorem Node.distinct_table_iff {origin : Origin} {es : Entries} :
    (Node.table origin es).Distinct ↔ es.Distinct := by
  constructor
  · intro h
    cases h with
    | table _ hkeys h => exact ⟨hkeys, h⟩
  · intro h
    exact .table origin h.keys h.nodes

theorem Node.distinct_tables_iff {earlier : List Entries} {last : Entries} :
    (Node.tables earlier last).Distinct ↔ ∀ es ∈ earlier ++ [last], es.Distinct := by
  constructor
  · intro h
    cases h with
    | tables hkeys h => exact fun es hes => ⟨hkeys es hes, h es hes⟩
  · intro h
    exact .tables (fun es hes => (h es hes).keys) fun es hes => (h es hes).nodes

namespace Entries

variable {es es' : Entries} {key : String} {node : Node}

/-! ### One table -/

theorem Distinct.nil : Distinct [] := ⟨List.nodup_nil, nofun⟩

theorem Distinct.lookup (h : es.Distinct) (hkey : es.lookup key = some node) : node.Distinct :=
  h.nodes _ (NameTable.mem_of_lookup hkey)

theorem Distinct.append (h : es.Distinct) (hkey : es.lookup key = none) (hnode : node.Distinct) :
    Distinct (es ++ [(key, node)]) where
  keys := by
    have hfresh : ∀ e ∈ es, e.1 ≠ key := by
      simpa [List.lookup_eq_none_iff, ne_comm] using hkey
    rw [List.map_append, List.nodup_append]
    refine ⟨h.keys, List.pairwise_singleton _ _, ?_⟩
    simpa using hfresh
  nodes e he := by
    rcases List.mem_append.1 he with he | he
    · exact h.nodes e he
    · obtain rfl := List.mem_singleton.1 he
      exact hnode

theorem map_fst_replace (key : String) (node : Node) (es : Entries) :
    (es.replace key node).map Prod.fst = es.map Prod.fst := by
  rw [replace, List.map_map]
  apply List.map_congr_left
  intro e _
  by_cases h : e.1 = key
  · simp [h]
  · simp [h]

theorem Distinct.replace (h : es.Distinct) (hnode : node.Distinct) :
    Distinct (es.replace key node) where
  keys := by
    rw [map_fst_replace]
    exact h.keys
  nodes e he := by
    obtain ⟨e', he', rfl⟩ := List.mem_map.1 he
    split
    · exact hnode
    · exact h.nodes e' he'

/-- Changing the last of several tables. -/
theorem Distinct.replace_last {earlier : List Entries} {last last' : Entries} (h : es.Distinct)
    (hkey : es.lookup key = some (.tables earlier last))
    (hlast : last.Distinct → last'.Distinct) :
    Distinct (es.replace key (.tables earlier last')) := by
  have htables := Node.distinct_tables_iff.1 (h.lookup hkey)
  refine h.replace (Node.distinct_tables_iff.2 fun other hother => ?_)
  rcases List.mem_append.1 hother with hother | hother
  · exact htables other (List.mem_append_left _ hother)
  · obtain rfl := List.mem_singleton.1 hother
    exact hlast (htables last (List.mem_append_right _ (List.mem_singleton_self _)))

/-! ### The steps of a document -/

theorem Distinct.within {change : Entries → Option Entries}
    (hchange : ∀ {es es'}, Distinct es → change es = some es' → Distinct es')
    {path : List String} (h : es.Distinct) (hwithin : es.within change path = some es') :
    es'.Distinct := by
  induction path generalizing es es' with
  | nil => exact hchange h hwithin
  | cons key path ih =>
      rw [Entries.within] at hwithin
      split at hwithin
      · next hkey =>
          obtain ⟨inner, hinner, hes⟩ := Option.bind_eq_some_iff.1 hwithin
          cases hes
          exact h.append hkey (Node.distinct_table_iff.2 (ih .nil hinner))
      · next origin inner hkey =>
          obtain ⟨inner', hinner, hes⟩ := Option.bind_eq_some_iff.1 hwithin
          cases hes
          have hbefore := Node.distinct_table_iff.1 (h.lookup hkey)
          exact h.replace (Node.distinct_table_iff.2 (ih hbefore hinner))
      · next earlier last hkey =>
          obtain ⟨last', hlast, hes⟩ := Option.bind_eq_some_iff.1 hwithin
          cases hes
          exact h.replace_last hkey fun hbefore => ih hbefore hlast
      · cases hwithin

theorem Distinct.assign {isOpen : Bool} {v : Value} (hv : v.Distinct) {path : List String}
    (h : es.Distinct) (hassign : es.assign isOpen key v path = some es') : es'.Distinct := by
  induction path generalizing es es' isOpen with
  | nil =>
      rw [Entries.assign] at hassign
      split at hassign
      · next hopen =>
          cases hassign
          have hkey : (es.lookup key).isNone = true := (Bool.and_eq_true_iff.1 hopen).2
          exact h.append (Option.isNone_iff_eq_none.1 hkey) (.leaf hv)
      · cases hassign
  | cons step path ih =>
      rw [Entries.assign] at hassign
      split at hassign
      · next hkey =>
          obtain ⟨inner, hinner, hes⟩ := Option.bind_eq_some_iff.1 hassign
          cases hes
          exact h.append hkey (Node.distinct_table_iff.2 (ih .nil hinner))
      · cases hassign
      · next origin inner _ hkey =>
          obtain ⟨inner', hinner, hes⟩ := Option.bind_eq_some_iff.1 hassign
          cases hes
          have hbefore := Node.distinct_table_iff.1 (h.lookup hkey)
          exact h.replace (Node.distinct_table_iff.2 (ih hbefore hinner))
      · next earlier last hkey =>
          obtain ⟨last', hlast, hes⟩ := Option.bind_eq_some_iff.1 hassign
          cases hes
          exact h.replace_last hkey fun hbefore => ih hbefore hlast
      · cases hassign

theorem Distinct.openTable (h : es.Distinct) (hopen : es.openTable key = some es') :
    es'.Distinct := by
  rw [Entries.openTable] at hopen
  split at hopen
  · next hkey =>
      cases hopen
      exact h.append hkey (Node.distinct_table_iff.2 .nil)
  · next inner hkey =>
      cases hopen
      exact h.replace (Node.distinct_table_iff.2 (Node.distinct_table_iff.1 (h.lookup hkey)))
  · cases hopen

theorem Distinct.addTable (h : es.Distinct) (hadd : es.addTable key = some es') :
    es'.Distinct := by
  rw [Entries.addTable] at hadd
  split at hadd
  · next hkey =>
      cases hadd
      refine h.append hkey (Node.distinct_tables_iff.2 ?_)
      exact List.forall_mem_singleton.2 .nil
  · next earlier last hkey =>
      cases hadd
      have htables := Node.distinct_tables_iff.1 (h.lookup hkey)
      refine h.replace (Node.distinct_tables_iff.2 fun other hother => ?_)
      rcases List.mem_append.1 hother with hother | hother
      · exact htables other hother
      · obtain rfl := List.mem_singleton.1 hother
        exact .nil
  · cases hadd

end Entries

/-! ### Finished parts -/

theorem entryValues_eq_map (es : Entries) : entryValues es = es.map fun e => (e.1, e.2.value) := by
  induction es with
  | nil => rfl
  | cons e es ih => rw [entryValues, ih, List.map_cons]

theorem tableValues_eq_map (tables : List Entries) :
    tableValues tables = tables.map fun es => Value.table (entryValues es) := by
  induction tables with
  | nil => rfl
  | cons es tables ih => rw [tableValues, ih, List.map_cons]

theorem distinct_table_entryValues {es : Entries} (hkeys : (es.map Prod.fst).Nodup)
    (h : ∀ e ∈ es, e.2.value.Distinct) : (Value.table (entryValues es)).Distinct := by
  rw [entryValues_eq_map]
  refine .table ?_ ?_
  · rw [List.map_map]
    exact hkeys
  · intro e he
    obtain ⟨e', he', rfl⟩ := List.mem_map.1 he
    exact h e' he'

/-- What a node is finished to, by induction on how it comes to have no key twice. -/
theorem Node.Distinct.value {node : Node} (h : node.Distinct) : node.value.Distinct := by
  induction h with
  | leaf h => exact h
  | table origin hkeys _ ih => exact distinct_table_entryValues hkeys ih
  | @tables earlier last hkeys _ ih =>
      have hvalue : (Node.tables earlier last).value =
          .array ((earlier ++ [last]).map fun es => Value.table (entryValues es)) := by
        rw [Node.value, tableValues_eq_map, List.map_append, List.map_singleton]
      rw [hvalue]
      refine .array fun v hv => ?_
      obtain ⟨es, hes, rfl⟩ := List.mem_map.1 hv
      exact distinct_table_entryValues (hkeys es hes) (ih es hes)

theorem Entries.Distinct.table {es : Entries} (h : es.Distinct) :
    (Value.table (entryValues es)).Distinct :=
  distinct_table_entryValues h.keys fun e he => (h.nodes e he).value

/-! ### Reading -/

theorem distinct_bareValue? {cs : List Char} {v : Value} (h : bareValue? cs = some v) :
    v.Distinct := by
  rw [bareValue?] at h
  split at h
  · cases h
    exact .boolean true
  · split at h
    · cases h
      exact .boolean false
    · split at h
      · cases h
        exact .integer _
      · split at h
        · cases h
          exact .float
        · obtain ⟨d, -, rfl⟩ := Option.map_eq_some_iff.1 h
          exact .datetime d

/-- With so much fuel, the readers of values, of the remainder of arrays and of the remainder of
inline tables yield values in which no table has a key twice. -/
structure ReadsDistinct (fuel : Nat) : Prop where
  value : ∀ depth cs v rest, value? fuel depth cs = some (v, rest) → v.Distinct
  array : ∀ depth done cs v rest, (∀ w ∈ done, w.Distinct) →
    array? fuel depth done cs = some (v, rest) → v.Distinct
  inlineTable : ∀ depth done cs v rest, Entries.Distinct done →
    inlineTable? fuel depth done cs = some (v, rest) → v.Distinct

namespace ReadsDistinct

variable {fuel depth : Nat} {cs rest : List Char} {v : Value} (ih : ReadsDistinct fuel)

include ih

theorem value_succ (h : value? (fuel + 1) depth cs = some (v, rest)) : v.Distinct := by
  rw [value?.eq_def] at h
  dsimp only at h
  split at h
  · split at h
    · cases h
    · exact ih.array _ _ _ _ _ (fun w hw => absurd hw List.not_mem_nil) h
  · split at h
    · cases h
    · exact ih.inlineTable _ _ _ _ _ .nil h
  · obtain ⟨read, -, h⟩ := Option.bind_eq_some_iff.1 h
    cases h
    exact .string _
  · obtain ⟨read, -, h⟩ := Option.bind_eq_some_iff.1 h
    cases h
    exact .string _
  · obtain ⟨w, hw, h⟩ := Option.bind_eq_some_iff.1 h
    cases h
    exact distinct_bareValue? hw

theorem array_succ {done : List Value} (hdone : ∀ w ∈ done, w.Distinct)
    (h : array? (fuel + 1) depth done cs = some (v, rest)) : v.Distinct := by
  rw [array?] at h
  obtain ⟨cs, -, h⟩ := Option.bind_eq_some_iff.1 h
  split at h
  · cases h
    exact .array hdone
  · obtain ⟨⟨w, after⟩, hw, h⟩ := Option.bind_eq_some_iff.1 h
    have hmore : ∀ w' ∈ done ++ [w], w'.Distinct := by
      intro w' hw'
      rcases List.mem_append.1 hw' with hw' | hw'
      · exact hdone w' hw'
      · obtain rfl := List.mem_singleton.1 hw'
        exact ih.value _ _ _ _ hw
    obtain ⟨after, -, h⟩ := Option.bind_eq_some_iff.1 h
    split at h
    · exact ih.array _ _ _ _ _ hmore h
    · cases h
      exact .array hmore
    · cases h

theorem inlineTable_succ {done : Entries} (hdone : done.Distinct)
    (h : inlineTable? (fuel + 1) depth done cs = some (v, rest)) : v.Distinct := by
  rw [inlineTable?] at h
  obtain ⟨cs, -, h⟩ := Option.bind_eq_some_iff.1 h
  split at h
  · cases h
    exact hdone.table
  · obtain ⟨⟨⟨path, key⟩, after⟩, -, h⟩ := Option.bind_eq_some_iff.1 h
    obtain ⟨after, -, h⟩ := Option.bind_eq_some_iff.1 h
    split at h
    · obtain ⟨after, -, h⟩ := Option.bind_eq_some_iff.1 h
      obtain ⟨⟨w, after⟩, hw, h⟩ := Option.bind_eq_some_iff.1 h
      obtain ⟨done', hassign, h⟩ := Option.bind_eq_some_iff.1 h
      have hdone' := hdone.assign (ih.value _ _ _ _ hw) hassign
      obtain ⟨after, -, h⟩ := Option.bind_eq_some_iff.1 h
      split at h
      · exact ih.inlineTable _ _ _ _ _ hdone' h
      · cases h
        exact hdone'.table
      · cases h
    · cases h

end ReadsDistinct

/-- The readers call each other with less fuel, so that they are taken together. -/
theorem readsDistinct (fuel : Nat) : ReadsDistinct fuel := by
  induction fuel with
  | zero => exact ⟨nofun, nofun, nofun⟩
  | succ fuel ih =>
      exact ⟨fun _ _ _ _ => ih.value_succ, fun _ _ _ _ _ => ih.array_succ,
        fun _ _ _ _ _ => ih.inlineTable_succ⟩

/-- A statement that assigns a value in which no table has a key twice; headers assign none. -/
def Statement.Distinct : Statement → Prop
  | assignment _ _ v => v.Distinct
  | _ => True

theorem distinct_statement? {cs rest : List Char} {s : Statement}
    (h : statement? cs = some (s, rest)) : s.Distinct := by
  rw [statement?.eq_def] at h
  split at h
  · obtain ⟨⟨⟨path, key⟩, after⟩, -, h⟩ := Option.bind_eq_some_iff.1 h
    dsimp only at h
    split at h
    · obtain ⟨after, -, h⟩ := Option.bind_eq_some_iff.1 h
      cases h
      trivial
    · cases h
  · obtain ⟨⟨⟨path, key⟩, after⟩, -, h⟩ := Option.bind_eq_some_iff.1 h
    dsimp only at h
    split at h
    · obtain ⟨after, -, h⟩ := Option.bind_eq_some_iff.1 h
      cases h
      trivial
    · cases h
  · obtain ⟨⟨⟨path, key⟩, after⟩, -, h⟩ := Option.bind_eq_some_iff.1 h
    dsimp only at h
    split at h
    · obtain ⟨⟨v, after⟩, hv, h⟩ := Option.bind_eq_some_iff.1 h
      obtain ⟨after, -, h⟩ := Option.bind_eq_some_iff.1 h
      cases h
      exact (readsDistinct _).value _ _ _ _ hv
    · cases h

theorem distinct_statements? {fuel : Nat} {cs : List Char} {statements : List Statement}
    (h : statements? fuel cs = some statements) : ∀ s ∈ statements, s.Distinct := by
  induction fuel generalizing cs statements with
  | zero => cases h
  | succ fuel ih =>
      rw [statements?] at h
      obtain ⟨cs, -, h⟩ := Option.bind_eq_some_iff.1 h
      split at h
      · cases h
        exact nofun
      · obtain ⟨⟨s, rest⟩, hs, h⟩ := Option.bind_eq_some_iff.1 h
        obtain ⟨more, hmore, h⟩ := Option.bind_eq_some_iff.1 h
        cases h
        exact List.forall_mem_cons.2 ⟨distinct_statement? hs, ih hmore⟩

theorem distinct_add? {d d' : Draft} {s : Statement} (hd : d.entries.Distinct) (hs : s.Distinct)
    (h : d.add? s = some d') : d'.entries.Distinct := by
  cases s with
  | header path key =>
      obtain ⟨es, hes, h⟩ := Option.bind_eq_some_iff.1 h
      cases h
      exact hd.within (fun hes hopen => hes.openTable hopen) hes
  | arrayHeader path key =>
      obtain ⟨es, hes, h⟩ := Option.bind_eq_some_iff.1 h
      cases h
      exact hd.within (fun hes hadd => hes.addTable hadd) hes
  | assignment path key v =>
      obtain ⟨es, hes, h⟩ := Option.bind_eq_some_iff.1 h
      cases h
      exact hd.within (fun hes hassign => hes.assign hs hassign) hes

theorem distinct_foldlM_add? {statements : List Statement} (hs : ∀ s ∈ statements, s.Distinct)
    {d d' : Draft} (hd : d.entries.Distinct) (h : statements.foldlM Draft.add? d = some d') :
    d'.entries.Distinct := by
  induction statements generalizing d with
  | nil =>
      cases h
      exact hd
  | cons s statements ih =>
      obtain ⟨hfirst, hmore⟩ := List.forall_mem_cons.1 hs
      rw [List.foldlM_cons] at h
      obtain ⟨e, he, h⟩ := Option.bind_eq_some_iff.1 h
      exact ih hmore (distinct_add? hd hfirst he) h

/-- **No table of a document has a key twice.** -/
theorem distinct_parse? {text : String} {v : Value} (h : parse? text = some v) : v.Distinct := by
  obtain ⟨statements, hstatements, h⟩ := Option.bind_eq_some_iff.1 h
  obtain ⟨draft, hdraft, h⟩ := Option.bind_eq_some_iff.1 h
  cases h
  exact (distinct_foldlM_add? (distinct_statements? hstatements) .nil hdraft).table

end CatalogSearch.Toml
