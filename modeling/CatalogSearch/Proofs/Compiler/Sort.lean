import CatalogSearch.Proofs.Compiler.Failure

/-!
Keys of a sort. A key is resolved in two steps: its name, behind aliases, leads to a field that can
be sorted by, under the name itself or under its sort form, and its modifiers give an order, of
which the last one counts. The field and the order give a block of sort keys. A list of keys is
resolved to their blocks in a row, if all keys can be resolved, and otherwise fails like the first
one that cannot.
-/

namespace CatalogSearch

/-! ### Marked names -/

/-- A name that bears the mark of sort fields and comes from a path with one mark at most. -/
def FieldName.MarkedOnce (path name : String) : Prop :=
  sortMark.toList <+: name.toList ∧
    (name = path ∨ ¬ sortMark.toList <+: path.toList ∧ name = sortMark ++ path)

theorem FieldName.markedOnce_iff {path name : String} :
    MarkedOnce path name ↔ name = FieldName.sort path := by
  simp only [MarkedOnce, FieldName.sort, List.isPrefixOf_iff_prefix]
  by_cases h : sortMark.toList <+: path.toList
  · rw [if_pos h]
    constructor
    · intro ⟨_, hname⟩
      exact hname.resolve_right fun h' => h'.1 h
    · intro hname
      exact ⟨hname ▸ h, Or.inl hname⟩
  · rw [if_neg h]
    constructor
    · intro ⟨hmark, hname⟩
      rcases hname with hname | ⟨-, hname⟩
      · exact absurd (hname ▸ hmark) h
      · exact hname
    · intro hname
      refine ⟨?_, Or.inr ⟨h, hname⟩⟩
      rw [hname, String.toList_append]
      exact List.prefix_append _ _

/-! ### Fields to sort by -/

theorem Catalog.fieldWith?_eq_some_iff {k : Catalog} {resource path : String} {c : Capability}
    {f : Field} : k.fieldWith? resource path c = some f ↔
      k.field? resource path = some f ∧ f.has c = true := by
  rw [fieldWith?, Option.filter_eq_some_iff]

theorem Catalog.fieldWith?_eq_none_iff {k : Catalog} {resource path : String} {c : Capability} :
    k.fieldWith? resource path c = none ↔
      ∀ f, k.field? resource path = some f → ¬ f.has c = true := by
  simp only [Option.eq_none_iff_forall_ne_some, ne_eq, fieldWith?_eq_some_iff, not_and]

/-- The field that a name stands for in a sort. The field of the name itself goes before that of its
sort form. -/
inductive Catalog.SortsBy (k : Catalog) (resource name : String) (f : Field) : Prop where
  | named (hf : k.field? resource name = some f) (hsort : f.has .sort = true)
  | marked {form : String} (hnone : ∀ g, k.field? resource name = some g → ¬ g.has .sort = true)
      (hform : FieldName.MarkedOnce name form) (hf : k.field? resource form = some f)
      (hsort : f.has .sort = true)

/-- Whether a name stands for a field in a sort. -/
def Catalog.Sortable (k : Catalog) (resource name : String) : Prop :=
  ∃ path f, (path = name ∨ FieldName.MarkedOnce name path) ∧ k.field? resource path = some f ∧
    f.has .sort = true

variable {k : Catalog} {resource name : String}

theorem SortIndex.sortField?_eq_some_iff {f : Field} :
    sortField? k resource name = some f ↔ k.SortsBy resource name f := by
  rw [sortField?, Option.orElse_eq_orElse, Option.orElse_eq_or, Option.or_eq_some_iff,
    Catalog.fieldWith?_eq_some_iff, Catalog.fieldWith?_eq_some_iff,
    Catalog.fieldWith?_eq_none_iff]
  constructor
  · rintro (⟨hf, hsort⟩ | ⟨hnone, hf, hsort⟩)
    · exact .named hf hsort
    · exact .marked hnone (FieldName.markedOnce_iff.2 rfl) hf hsort
  · rintro (⟨hf, hsort⟩ | ⟨hnone, hform, hf, hsort⟩)
    · exact Or.inl ⟨hf, hsort⟩
    · exact Or.inr ⟨hnone, FieldName.markedOnce_iff.1 hform ▸ hf, hsort⟩

theorem Catalog.exists_sortsBy_iff :
    (∃ f, k.SortsBy resource name f) ↔ k.Sortable resource name := by
  constructor
  · rintro ⟨f, ⟨hf, hsort⟩ | ⟨hnone, hform, hf, hsort⟩⟩
    · exact ⟨name, f, Or.inl rfl, hf, hsort⟩
    · exact ⟨_, f, Or.inr hform, hf, hsort⟩
  · intro ⟨path, f, hpath, hf, hsort⟩
    -- The field of the name itself is in the way of that of the sort form.
    by_cases hnamed : ∃ g, k.field? resource name = some g ∧ g.has .sort = true
    · obtain ⟨g, hg, hsort'⟩ := hnamed
      exact ⟨g, .named hg hsort'⟩
    · have hnone : ∀ g, k.field? resource name = some g → ¬ g.has .sort = true :=
        fun g hg hsort' => hnamed ⟨g, hg, hsort'⟩
      rcases hpath with rfl | hform
      · exact absurd hsort (hnone f hf)
      · exact ⟨f, .marked hnone hform hf hsort⟩

/-! ### Orders -/

/-- The name of the modifier that asks for an order. -/
def SortOrder.modifierName : SortOrder → String
  | ascending => "sort.ascending"
  | descending => "sort.descending"

/-- Whether a modifier asks for an order; the case of its letters does not matter. -/
def Modifier.AsksFor (m : Modifier) (order : SortOrder) : Prop :=
  Text.lowerString m.name = order.modifierName

/-- The order that modifiers ask for, all of which have to ask for one. The last one counts, and
without modifiers the order is ascending. -/
structure SortOrder.AskedFor (order : SortOrder) (modifiers : List Modifier) : Prop where
  known : ∀ m ∈ modifiers, ∃ asked, m.AsksFor asked
  last : ∀ m, modifiers.getLast? = some m → m.AsksFor order
  default : modifiers = [] → order = .ascending

namespace SortIndex

theorem orderOf?_eq_some_iff {m : Modifier} {order : SortOrder} :
    orderOf? m = some order ↔ m.AsksFor order := by
  simp only [orderOf?, Modifier.AsksFor]
  by_cases hascending : Text.lowerString m.name = "sort.ascending"
  · rw [if_pos hascending, hascending]
    cases order <;> decide
  · rw [if_neg hascending]
    by_cases hdescending : Text.lowerString m.name = "sort.descending"
    · rw [if_pos hdescending, hdescending]
      cases order <;> decide
    · rw [if_neg hdescending]
      cases order
      · exact iff_of_false nofun hascending
      · exact iff_of_false nofun hdescending

theorem orderOf?_eq_none_iff {m : Modifier} :
    orderOf? m = none ↔ ∀ order, ¬ m.AsksFor order := by
  simp only [Option.eq_none_iff_forall_ne_some, ne_eq, orderOf?_eq_some_iff]

/-- The order after some modifiers, by induction on them: each one takes the place of the order
before it. -/
theorem orderOf_eq_ok_iff {start order : SortOrder} {modifiers : List Modifier} :
    orderOf start modifiers = .ok order ↔ (∀ m ∈ modifiers, ∃ asked, m.AsksFor asked) ∧
      (∀ m, modifiers.getLast? = some m → m.AsksFor order) ∧
        (modifiers = [] → order = start) := by
  induction modifiers generalizing start with
  | nil =>
      rw [orderOf, Except.ok.injEq]
      simp [eq_comm]
  | cons m rest ih =>
      rw [orderOf]
      cases hm : orderOf? m with
      | none =>
          apply iff_of_false nofun
          intro ⟨hknown, _⟩
          obtain ⟨asked, hasked⟩ := hknown m List.mem_cons_self
          exact orderOf?_eq_none_iff.1 hm asked hasked
      | some asked =>
          have hasked := orderOf?_eq_some_iff.1 hm
          simp only [ih, List.forall_mem_cons, reduceCtorEq, false_implies, and_true]
          rw [and_iff_right (⟨asked, hasked⟩ : ∃ asked, m.AsksFor asked)]
          apply and_congr_right
          intro _
          cases rest with
          | nil =>
              simp only [← orderOf?_eq_some_iff, List.getLast?_singleton, List.getLast?_nil,
                Option.some.injEq, forall_eq', hm, reduceCtorEq, false_implies, implies_true,
                true_and, forall_const]
              exact eq_comm
          | cons m' rest => simp

/-- The error of a modifier that asks for no order. -/
def unknown? (m : Modifier) : Option CompileError :=
  match orderOf? m with
  | some _ => none
  | none => some (.unsupported (.sortModifier m.name))

theorem unknown?_eq_none_iff {m : Modifier} : unknown? m = none ↔ ∃ order, m.AsksFor order := by
  simp only [← orderOf?_eq_some_iff, unknown?]
  cases orderOf? m <;> simp

theorem unknown?_eq_some_iff {m : Modifier} {err : CompileError} : unknown? m = some err ↔
    (∀ order, ¬ m.AsksFor order) ∧ err = .unsupported (.sortModifier m.name) := by
  simp only [← orderOf?_eq_none_iff, unknown?]
  cases orderOf? m <;> simp [eq_comm]

theorem failure?_orderOf (start : SortOrder) (modifiers : List Modifier) :
    failure? (orderOf start modifiers) = modifiers.findSome? unknown? := by
  induction modifiers generalizing start with
  | nil => rfl
  | cons m rest ih =>
      rw [orderOf, List.findSome?_cons, unknown?]
      cases orderOf? m with
      | none => rfl
      | some order => exact ih order

end SortIndex

/-! ### Blocks of sort keys -/

/-- Whether documents have several values of the sort field. -/
def Field.SortsCollection (f : Field) : Prop :=
  ∃ settings, f.sort = some settings ∧ settings.layout = .collection

/-- The field of the index that holds the sort values: the one of the settings, or else the path of
the field with one mark. -/
def Field.SortedUnder (f : Field) (name : String) : Prop :=
  (∃ settings, f.sort = some settings ∧ settings.field = some name) ∨
    (∀ settings, f.sort = some settings → settings.field = none) ∧
      FieldName.MarkedOnce f.path name

/-- The fields that decide between equal values, for documents with several values only. -/
def Field.tieBreakers (f : Field) : List String :=
  match f.sort with
  | some ⟨_, .collection, secondary⟩ => secondary
  | _ => []

/-- The sort keys of a field in an order: one for the field that holds the sort values and one for
each field that decides between equal values, all in the same order. The least of several values
counts in ascending order and the greatest in descending order. -/
structure Field.SortBlock (f : Field) (order : SortOrder) (block : List SortKey) : Prop where
  fields : ∃ primary, f.SortedUnder primary ∧
    block.map SortKey.field = primary :: f.tieBreakers
  orders : ∀ key ∈ block, key.order = order
  least : ∀ key ∈ block, key.mode = some .min ↔ f.SortsCollection ∧ order = .ascending
  greatest : ∀ key ∈ block, key.mode = some .max ↔ f.SortsCollection ∧ order = .descending

namespace Field

variable {f : Field} {order : SortOrder}

/-- The field of the index that holds the sort values. -/
def sortPrimary (f : Field) : String :=
  (f.sort.bind SortSettings.field).getD (FieldName.sort f.path)

theorem sortedUnder_iff {name : String} : f.SortedUnder name ↔ name = f.sortPrimary := by
  rw [SortedUnder, sortPrimary, FieldName.markedOnce_iff]
  cases f.sort with
  | none => simp
  | some settings => cases hfield : settings.field <;> simp [hfield, eq_comm]

/-- Which of several values the sort keys of the field look at. -/
def sortMode (f : Field) (order : SortOrder) : Option SortMode :=
  match f.sort with
  | some ⟨_, .collection, _⟩ => some order.collectionMode
  | _ => none

theorem sortMode_of_collection (h : f.SortsCollection) :
    f.sortMode order = some order.collectionMode := by
  obtain ⟨⟨_, _, _⟩, hsort, rfl⟩ := h
  rw [sortMode, hsort]

theorem sortMode_of_not_collection (h : ¬ f.SortsCollection) : f.sortMode order = none := by
  rw [sortMode]
  split
  · next hsort => exact absurd ⟨_, hsort, rfl⟩ h
  · rfl

theorem keysOf_eq (f : Field) (order : SortOrder) : SortIndex.keysOf f order =
    (f.sortPrimary :: f.tieBreakers).map fun name => ⟨name, order, f.sortMode order⟩ := by
  rw [SortIndex.keysOf, sortPrimary, tieBreakers, sortMode]
  match f.sort with
  | none => rfl
  | some ⟨_, .single, _⟩ => rfl
  | some ⟨_, .collection, _⟩ => rfl

/-- The mode of a key is told by when it is the least and when the greatest value that counts. -/
theorem eq_sortMode_iff {mode : Option SortMode} : mode = f.sortMode order ↔
    (mode = some .min ↔ f.SortsCollection ∧ order = .ascending) ∧
      (mode = some .max ↔ f.SortsCollection ∧ order = .descending) := by
  by_cases h : f.SortsCollection
  · rw [sortMode_of_collection h, iff_true_intro h]
    rcases mode with _ | _ | _ <;> cases order <;> decide
  · rw [sortMode_of_not_collection h, iff_false_intro h]
    rcases mode with _ | _ | _ <;> simp

/-- A list of records that agree in all but one member is told by that member. -/
theorem sortBlock_iff {block : List SortKey} :
    f.SortBlock order block ↔ block = SortIndex.keysOf f order := by
  rw [keysOf_eq]
  constructor
  · intro h
    obtain ⟨primary, hprimary, hfields⟩ := h.fields
    obtain rfl := sortedUnder_iff.1 hprimary
    have hkeys : ∀ key ∈ block, key = ⟨key.field, order, f.sortMode order⟩ := by
      intro key hkey
      have hmode := eq_sortMode_iff.2 ⟨h.least key hkey, h.greatest key hkey⟩
      rw [← hmode, ← h.orders key hkey]
    calc block = block.map id := (List.map_id block).symm
      _ = block.map fun key => ⟨key.field, order, f.sortMode order⟩ := List.map_congr_left hkeys
      _ = (block.map SortKey.field).map fun name => ⟨name, order, f.sortMode order⟩ := by
        rw [List.map_map]
        rfl
      _ = _ := by rw [hfields]
  · rintro rfl
    have hmem : ∀ key ∈ (f.sortPrimary :: f.tieBreakers).map fun name =>
        (⟨name, order, f.sortMode order⟩ : SortKey), key.order = order ∧
          key.mode = f.sortMode order := by
      intro key hkey
      obtain ⟨name, -, rfl⟩ := List.mem_map.1 hkey
      exact ⟨rfl, rfl⟩
    refine ⟨⟨f.sortPrimary, sortedUnder_iff.2 rfl, ?_⟩, fun key hkey => (hmem key hkey).1,
      fun key hkey => (eq_sortMode_iff.1 (hmem key hkey).2).1,
      fun key hkey => (eq_sortMode_iff.1 (hmem key hkey).2).2⟩
    rw [List.map_map]
    exact List.map_id _

end Field

/-! ### Keys -/

namespace SortIndex

variable {i : SortIndex}

theorem askedFor_iff {order : SortOrder} {modifiers : List Modifier} :
    order.AskedFor modifiers ↔ orderOf .ascending modifiers = .ok order := by
  rw [orderOf_eq_ok_iff]
  exact ⟨fun h => ⟨h.known, h.last, h.default⟩, fun h => ⟨h.1, h.2.1, h.2.2⟩⟩

/-- Whether a key can be resolved: its name stands for a field that can be sorted by, and all its
modifiers ask for an order. -/
structure Resolvable (k : Catalog) (resource : String) (i : SortIndex) : Prop where
  field : k.Sortable resource (k.resolveAlias resource i.base)
  modifiers : ∀ m ∈ i.modifiers, ∃ order, m.AsksFor order

/-- Why a key cannot be resolved. Modifiers are looked at only if there is a field to sort by, and
the first one that asks for no order is reported. -/
inductive Fault (k : Catalog) (resource : String) (i : SortIndex) : CompileError → Prop where
  | field (h : ¬ k.Sortable resource (k.resolveAlias resource i.base)) :
      Fault k resource i (.invalidSortField (k.resolveAlias resource i.base) resource)
  | modifier {before after : List Modifier} {m : Modifier}
      (hfield : k.Sortable resource (k.resolveAlias resource i.base))
      (hsplit : i.modifiers = before ++ m :: after)
      (hbefore : ∀ m' ∈ before, ∃ order, m'.AsksFor order) (hm : ∀ order, ¬ m.AsksFor order) :
      Fault k resource i (.unsupported (.sortModifier m.name))

theorem resolve_eq_ok_iff {block : List SortKey} : i.resolve k resource = .ok block ↔
    ∃ f order, k.SortsBy resource (k.resolveAlias resource i.base) f ∧
      order.AskedFor i.modifiers ∧ f.SortBlock order block := by
  simp only [resolve, ← sortField?_eq_some_iff, askedFor_iff, Field.sortBlock_iff]
  cases sortField? k resource (k.resolveAlias resource i.base) with
  | none => exact iff_of_false nofun nofun
  | some f =>
      simp only [Option.some.injEq, ↓existsAndEq, true_and]
      exact bind_eq_ok_iff.trans (exists_congr fun order => and_congr_right fun _ => pure_eq_ok_iff)

theorem failure?_resolve (i : SortIndex) : failure? (i.resolve k resource) =
    match sortField? k resource (k.resolveAlias resource i.base) with
    | none => some (.invalidSortField (k.resolveAlias resource i.base) resource)
    | some _ => i.modifiers.findSome? unknown? := by
  simp only [resolve]
  cases sortField? k resource (k.resolveAlias resource i.base) with
  | none => rfl
  | some f => exact (failure?_bind_pure _ (keysOf f)).trans (failure?_orderOf _ _)

theorem sortField?_eq_none_iff :
    sortField? k resource name = none ↔ ¬ k.Sortable resource name := by
  rw [← Catalog.exists_sortsBy_iff, not_exists]
  simp only [Option.eq_none_iff_forall_ne_some, ne_eq, sortField?_eq_some_iff]

theorem sortable_of_sortField? {f : Field} (h : sortField? k resource name = some f) :
    k.Sortable resource name :=
  Catalog.exists_sortsBy_iff.1 ⟨f, sortField?_eq_some_iff.1 h⟩

theorem resolve_eq_error_iff {err : CompileError} :
    i.resolve k resource = .error err ↔ i.Fault k resource err := by
  rw [← failure?_eq_some_iff, failure?_resolve]
  cases hf : sortField? k resource (k.resolveAlias resource i.base) with
  | none =>
      have hnone := sortField?_eq_none_iff.1 hf
      constructor
      · intro h
        obtain rfl := Option.some.inj h
        exact .field hnone
      · rintro (- | ⟨hfield, -, -, -⟩)
        · rfl
        · exact absurd hfield hnone
  | some f =>
      have hfield := sortable_of_sortField? hf
      simp only [List.findSome?_eq_some_iff, unknown?_eq_some_iff, unknown?_eq_none_iff]
      constructor
      · rintro ⟨before, m, after, hsplit, ⟨hm, rfl⟩, hbefore⟩
        exact .modifier hfield hsplit hbefore hm
      · rintro (hnone | ⟨-, hsplit, hbefore, hm⟩)
        · exact absurd hfield hnone
        · exact ⟨_, _, _, hsplit, ⟨hm, rfl⟩, hbefore⟩

/-- A key is resolved exactly if neither its name nor a modifier is in the way. -/
theorem exists_resolve_iff : (∃ block, i.resolve k resource = .ok block) ↔
    i.Resolvable k resource := by
  rw [← failure?_eq_none_iff, failure?_resolve]
  cases hf : sortField? k resource (k.resolveAlias resource i.base) with
  | none =>
      apply iff_of_false nofun
      intro h
      exact sortField?_eq_none_iff.1 hf h.field
  | some f =>
      simp only [List.findSome?_eq_none_iff, unknown?_eq_none_iff]
      exact ⟨fun h => ⟨sortable_of_sortField? hf, h⟩, Resolvable.modifiers⟩

end SortIndex

/-! ### Lists of keys -/

/-- **Sorts are resolved completely, in order, or not at all.** A list of keys is resolved exactly
if each of them names a field that can be sorted by and has only modifiers that ask for an order.
Otherwise the error is that of the first key that cannot be resolved. The sort keys are the blocks
of the keys one after the other: the block of a key is that of the field it names, in the order that
its last modifier asks for. -/
theorem Catalog.resolveSort_blocks (k : Catalog) (resource : String) (indexes : List SortIndex) :
    ((∃ keys, k.resolveSort resource indexes = .ok keys) ↔
      ∀ i ∈ indexes, i.Resolvable k resource) ∧
    (∀ err, k.resolveSort resource indexes = .error err ↔
      ∃ before i after, indexes = before ++ i :: after ∧
        (∀ j ∈ before, j.Resolvable k resource) ∧ i.Fault k resource err) ∧
    ∀ keys, k.resolveSort resource indexes = .ok keys ↔
      ∃ blocks, List.Forall₂ (fun (i : SortIndex) block => ∃ f order,
        k.SortsBy resource (k.resolveAlias resource i.base) f ∧ order.AskedFor i.modifiers ∧
          f.SortBlock order block) indexes blocks ∧ keys = blocks.flatten := by
  refine ⟨?_, fun err => ?_, fun keys => ?_⟩
  · rw [← failure?_eq_none_iff, Compiler.failure?_resolveSort, List.findSome?_eq_none_iff]
    simp only [failure?_eq_none_iff, SortIndex.exists_resolve_iff]
  · rw [← failure?_eq_some_iff, Compiler.failure?_resolveSort, List.findSome?_eq_some_iff]
    simp only [failure?_eq_none_iff, failure?_eq_some_iff, SortIndex.exists_resolve_iff,
      SortIndex.resolve_eq_error_iff, and_comm]
  · simp only [resolveSort, bind_eq_ok_iff, mapM_eq_ok_iff, pure_eq_ok_iff,
      SortIndex.resolve_eq_ok_iff]

/-- A catalog of journals, which can be sorted by their authors, and by subjects under a marked
name. Journals have several authors, and titles decide between equal ones. -/
def Catalog.journals : Catalog :=
  ⟨.ofList [("journal",
    { name := "journal"
      aliases := .ofList [("writer", "author")]
      groups := .empty
      fields := .ofList [
        ("author",
          ⟨"author", [.sort], false, none, .keyword, some ⟨none, .collection, ["sort_title"]⟩⟩),
        ("sort_subject", ⟨"sort_subject", [.sort], false, none, .keyword, none⟩),
        ("title", ⟨"title", [.fulltext], false, none, .keyword, none⟩)] })]⟩

/-- Writers in the order that was asked for last, then subjects. By titles there is no sort,
whatever order is asked for. -/
theorem Catalog.resolveSort_blocks_journals :
    let writers : SortIndex :=
      ⟨"writer", [⟨"sort.ascending", none, none⟩, ⟨"Sort.Descending", none, none⟩]⟩
    let titles : SortIndex := ⟨"title", [⟨"sort.random", none, none⟩]⟩
    journals.resolveSort "journal" [writers, ⟨"subject", []⟩] =
        .ok [⟨"sort_author", .descending, some .max⟩, ⟨"sort_title", .descending, some .max⟩,
          ⟨"sort_subject", .ascending, none⟩] ∧
      journals.resolveSort "journal" [writers, titles] =
        .error (.invalidSortField "title" "journal") := by
  intro writers titles
  have hwriters : writers.resolve journals "journal" =
      .ok [⟨"sort_author", .descending, some .max⟩, ⟨"sort_title", .descending, some .max⟩] := by
    decide +kernel
  have hsubjects : SortIndex.resolve journals "journal" ⟨"subject", []⟩ =
      .ok [⟨"sort_subject", .ascending, none⟩] := by
    decide +kernel
  have htitles : ¬ journals.Sortable "journal" "title" :=
    SortIndex.sortField?_eq_none_iff.1 (by decide +kernel)
  constructor
  · apply ((resolveSort_blocks journals "journal" _).2.2 _).2
    exact ⟨_, .cons (SortIndex.resolve_eq_ok_iff.1 hwriters)
      (.cons (SortIndex.resolve_eq_ok_iff.1 hsubjects) .nil), rfl⟩
  · apply ((resolveSort_blocks journals "journal" _).2.1 _).2
    refine ⟨[writers], titles, [], rfl, ?_, .field htitles⟩
    exact List.forall_mem_singleton.2 (SortIndex.exists_resolve_iff.1 ⟨_, hwriters⟩)

end CatalogSearch
