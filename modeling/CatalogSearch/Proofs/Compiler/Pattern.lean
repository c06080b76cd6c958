import CatalogSearch.Proofs.Comparator.Leaves
import CatalogSearch.Proofs.Compiler.Field

/-!
Patterns on fields with typed values. A clause that names such a field alone is turned down if its
value is a pattern, but the comparator for patterns is let through with any value of the type. In a
group values are not looked at, and a pattern goes to all members alike. So a query looks for a
pattern in a field with typed values on these two ways and on no other.
-/

namespace CatalogSearch.Compiler

/-- The comparator under which the strategy for a value is looked up. -/
def lookupKey (v : Value) (comparator : String) : String :=
  if isPattern v then Strategy.wildcardComparator else Text.lowerString comparator

variable {c : Compiler} {resource : String} {v : Value} {comparator : String} {s : Strategy}

theorem lookupKey_of_isPattern (h : isPattern v = true) (comparator : String) :
    lookupKey v comparator = Strategy.wildcardComparator :=
  if_pos h

theorem lookupKey_of_not_isPattern (h : isPattern v = false) (comparator : String) :
    lookupKey v comparator = Text.lowerString comparator := by
  rw [lookupKey, h, if_neg Bool.false_ne_true]

theorem lookupKey_eq_wildcard_iff : lookupKey v comparator = Strategy.wildcardComparator ↔
    Text.lowerString comparator = Strategy.wildcardComparator ∨ isPattern v = true := by
  cases h : isPattern v with
  | true => simp [lookupKey_of_isPattern h]
  | false => simp [lookupKey_of_not_isPattern h]

theorem lookup_of_strategyFor (hd : c.dispatch = .standard)
    (hs : c.strategyFor v comparator = .ok s) :
    Dispatch.standard.lookup (lookupKey v comparator) = some s :=
  hd ▸ strategyFor_eq_ok_iff.1 hs

/-- The strategy for a value lists the comparator under which it is looked up. -/
theorem mem_standard_of_strategyFor (hd : c.dispatch = .standard)
    (hs : c.strategyFor v comparator = .ok s) :
    s ∈ Strategy.standard ∧ lookupKey v comparator ∈ s.comparators :=
  ⟨Dispatch.mem_standard_of_lookup (lookup_of_strategyFor hd hs),
    Dispatch.mem_comparators_of_lookup (lookup_of_strategyFor hd hs)⟩

/-- The strategy for patterns is the one of its comparator. -/
theorem eq_wildcard_of_strategyFor (hd : c.dispatch = .standard)
    (hs : c.strategyFor v comparator = .ok s)
    (hkey : lookupKey v comparator = Strategy.wildcardComparator) : s = .wildcard := by
  have hmem : Strategy.wildcard ∈ Strategy.standard := by simp [Strategy.standard]
  have howner := Dispatch.lookup_standard hmem (List.mem_singleton.2 rfl)
  have hlookup := lookup_of_strategyFor hd hs
  rw [hkey, howner] at hlookup
  exact (Option.some.inj hlookup).symm

/-- A field that a target names, alone or as a member of a group. -/
inductive Target.Names (k : Catalog) (resource : String) (f : Field) : Target → Prop where
  | alone : Names k resource f (.field f)
  | member {members : List String} {path : String} (hpath : path ∈ members)
      (hf : k.field? resource path = some f) : Names k resource f (.group members)

variable {f : Field}

theorem withoutPatterns_targetQuery (hs : s.WithoutPatterns) {t : Target}
    {modifiers : List Modifier} {q : Query} (ht : t.Names c.catalog resource f)
    (hfull : f.isFulltext = false) (hq : targetQuery c.catalog resource s v modifiers t = .ok q) :
    q.WithoutPatterns := by
  cases ht with
  | alone =>
      obtain ⟨-, w, -, hq⟩ := (targetQuery_field_eq_ok_iff hfull).1 hq
      exact hs.onTerm w f.path q hq
  | member => exact hs.onGroup _ _ q hq

/-- A member of a group that is not full-text is looked at under its path. -/
theorem termField_mem_groupMembers {k : Catalog} {members : List String} {path : String}
    (literal : Bool) (hpath : path ∈ members) (hf : k.field? resource path = some f)
    (hfull : f.isFulltext = false) :
    ∃ m ∈ groupMembers k resource literal members, m.termField = f.path := by
  refine ⟨.ofField f, List.mem_map.2 ⟨path, hpath, ?_⟩, ?_⟩
  · simp [hf, hfull]
  · simp [Member.termField, Member.ofField, hfull]

theorem pattern_mem_leaves_of_group {k : Catalog} {members : List String} {path : String}
    (literal : Bool) (hpath : path ∈ members) (hf : k.field? resource path = some f)
    (hfull : f.isFulltext = false) (v : Value) :
    Query.wildcard f.path v.display ∈ (Strategy.anyOf
      ((groupMembers k resource literal members).map fun m =>
        .wildcard m.termField v.display)).leaves := by
  obtain ⟨m, hm, hfield⟩ := termField_mem_groupMembers literal hpath hf hfull
  rw [Strategy.leaves_anyOf_map fun _ => Query.leaves_wildcard _ _]
  exact List.mem_map.2 ⟨m, hm, by rw [hfield]⟩

/-- **Patterns on fields with typed values.** Let a clause with a query name a field that is not
full-text and whose values are not keywords. Its query looks for a pattern in that field exactly if
the comparator is the one for patterns, or the field is a member of a group and the value is a
pattern. -/
theorem exists_pattern_iff (c : Compiler) (hd : c.dispatch = .standard) (resource : String)
    (clause : Clause) (f : Field) {t : Target} {q : Query}
    (ht : target? c.catalog resource (c.catalog.resolveAlias resource clause.index) = some t)
    (hnames : t.Names c.catalog resource f) (hfull : f.isFulltext = false)
    (htype : f.valueType ≠ .keyword) (hq : c.clauseQuery resource clause = .ok q) :
    (∃ pattern, Query.wildcard f.path pattern ∈ q.leaves) ↔
      isMatchAll clause = false ∧
        (Text.lowerString clause.comparator = Strategy.wildcardComparator ∨
          (∃ members, t = .group members) ∧
            ∃ v, c.normalizedValue resource t clause.term = .ok v ∧ isPattern v = true) := by
  rcases clauseQuery_eq_ok_iff.1 hq with ⟨hall, rfl⟩ | ⟨hall, t', v, s, ht', hv, hs, hq⟩
  · simp [hall]
  obtain rfl := Option.some.inj (ht.symm.trans ht')
  simp only [hall, true_and, hv, Except.ok.injEq, exists_eq_left']
  -- Patterns and the comparator for them share a strategy, which no other clause has.
  by_cases hkey : lookupKey v clause.comparator = Strategy.wildcardComparator
  · obtain rfl := eq_wildcard_of_strategyFor hd hs hkey
    cases hnames with
    | alone =>
        obtain ⟨hkeyword, w, -, hw⟩ := (targetQuery_field_eq_ok_iff hfull).1 hq
        obtain rfl := Except.ok.inj hw
        -- A pattern would have been turned down, which leaves the comparator.
        have hpattern : ¬ isPattern v = true := fun h => htype (hkeyword h)
        have hcomparator := (lookupKey_eq_wildcard_iff.1 hkey).resolve_right hpattern
        exact iff_of_true ⟨w.display, by simp⟩ (Or.inl hcomparator)
    | member hpath hf =>
        obtain rfl := Except.ok.inj hq
        refine iff_of_true ⟨v.display, pattern_mem_leaves_of_group _ hpath hf hfull v⟩ ?_
        exact (lookupKey_eq_wildcard_iff.1 hkey).imp_right fun h => ⟨⟨_, rfl⟩, h⟩
  · obtain ⟨hmem, hcomparator⟩ := mem_standard_of_strategyFor hd hs
    have hnone := Strategy.withoutPatterns_of_mem_standard hmem hcomparator hkey
    refine iff_of_false ?_ fun h => hkey (lookupKey_eq_wildcard_iff.2 (h.imp_right And.right))
    rintro ⟨pattern, hpattern⟩
    exact withoutPatterns_targetQuery hnone hnames hfull hq f.path pattern hpattern

/-- A field of numbers of copies. -/
def copies : Field := ⟨"copies", [.filter], false, none, .long, none⟩

/-- A field of keywords. -/
def genre : Field := ⟨"genre", [.filter], false, none, .keyword, none⟩

/-- A full-text field in several languages. -/
def title : Field := ⟨"title", [.fulltext], true, none, .keyword, none⟩

/-- A catalog of books, in which genres are in a group with the numbers of copies, and in another
one with titles. The numbers of copies have an alias. -/
def stock : Compiler where
  catalog := ⟨.ofList [("book",
    { name := "book"
      aliases := .ofList [("count", "copies")]
      groups := .ofList [("holdings", ["genre", "copies"]), ("topics", ["genre", "title"])]
      fields := .ofList [("copies", copies), ("genre", genre), ("title", title)] })]⟩
  normalizers := .standard
  dispatch := .standard
  browse := .standard

/-- Numbers are looked for as patterns by a comparator, and beside genres for their value. -/
theorem exists_pattern_iff_stock :
    (∃ q, stock.clauseQuery "book" ⟨"count", "WildCard", "5", []⟩ = .ok q ∧
      ∃ pattern, Query.wildcard "copies" pattern ∈ q.leaves) ∧
    (∃ q, stock.clauseQuery "book" ⟨"count", "=", "5", []⟩ = .ok q ∧
      ¬ ∃ pattern, Query.wildcard "copies" pattern ∈ q.leaves) ∧
    ∃ q, stock.clauseQuery "book" ⟨"holdings", "=", "5*", []⟩ = .ok q ∧
      ∃ pattern, Query.wildcard "copies" pattern ∈ q.leaves := by
  have hmember : Target.Names stock.catalog "book" copies (.group ["genre", "copies"]) :=
    .member (List.mem_cons_of_mem "genre" (List.mem_singleton_self "copies")) rfl
  refine ⟨⟨.wildcard "copies" "5", by decide +kernel, ?_⟩,
    ⟨.term "copies" (.long 5), by decide +kernel, ?_⟩,
    ⟨.bool [] [.wildcard "genre" "5*", .wildcard "copies" "5*"] [] [], by decide +kernel, ?_⟩⟩
  · exact (exists_pattern_iff stock rfl "book" ⟨"count", "WildCard", "5", []⟩ copies rfl .alone
      (by decide) (by decide) (by decide +kernel)).2 ⟨by decide, Or.inl (by decide +kernel)⟩
  · intro h
    have hpattern := (exists_pattern_iff stock rfl "book" ⟨"count", "=", "5", []⟩ copies rfl .alone
      (by decide) (by decide) (by decide +kernel)).1 h
    rcases hpattern.2 with hcomparator | ⟨⟨members, hgroup⟩, -⟩
    · exact absurd hcomparator (by decide +kernel)
    · cases hgroup
  · exact (exists_pattern_iff stock rfl "book" ⟨"holdings", "=", "5*", []⟩ copies rfl hmember
      (by decide) (by decide) (by decide +kernel)).2
        ⟨by decide, Or.inr ⟨⟨_, rfl⟩, .text "5*", rfl, by decide⟩⟩

/-- Fields with typed values are not safe from patterns. -/
theorem not_forall_typed_without_patterns :
    ¬ ∀ (c : Compiler) (resource : String) (f : Field) (clause : Clause) (t : Target) (q : Query),
      c.dispatch = .standard →
      target? c.catalog resource (c.catalog.resolveAlias resource clause.index) = some t →
      t.Names c.catalog resource f → f.isFulltext = false → f.valueType ≠ .keyword →
      c.clauseQuery resource clause = .ok q →
      ∀ pattern, Query.wildcard f.path pattern ∉ q.leaves := by
  intro h
  exact h stock "book" copies ⟨"copies", "wildcard", "5", []⟩ (.field copies)
    (.wildcard "copies" "5") rfl rfl .alone (by decide) (by decide) (by decide +kernel) "5"
    (by decide)

end CatalogSearch.Compiler
