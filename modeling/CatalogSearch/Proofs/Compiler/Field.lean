import CatalogSearch.Proofs.Compiler.Shape

/-!
Clauses on one field. Where the path of a field is the name of neither an alias nor a group, a
clause on that path is a clause on the field, and if the field is not full-text, the value of the
clause is normalized, checked, and left to the strategy of the comparator. What the strategies of
equality and of the four relations then make of it is stated for all fields at once.
-/

namespace CatalogSearch

/-- A field that its path stands for: the path names neither something else nor a group. -/
structure Catalog.NamedByPath (k : Catalog) (resource : String) (f : Field) : Prop where
  described : k.field? resource f.path = some f
  unaliased : k.resolveAlias resource f.path = f.path
  ungrouped : k.resolveGroup resource f.path = []

namespace Catalog.NamedByPath

variable {k : Catalog} {resource : String} {f : Field} (h : k.NamedByPath resource f)

include h

theorem target? :
    Compiler.target? k resource (k.resolveAlias resource f.path) = some (.field f) := by
  rw [h.unaliased, Compiler.target?, h.ungrouped]
  simp only [h.described, Option.map_some]

theorem fieldWith? {c : Capability} (hc : f.has c = true) :
    k.fieldWith? resource f.path c = some f := by
  rw [Catalog.fieldWith?, h.described, Option.filter_some, if_pos hc]

theorem filterable (hfilter : f.has .filter = true) : k.Filterable resource f.path :=
  ⟨f, h.described, hfilter⟩

end Catalog.NamedByPath

/-- A field whose values are compared as they are written: they are keywords without a normal form.
-/
structure Field.Verbatim (f : Field) : Prop where
  whole : f.isFulltext = false
  keyword : f.valueType = .keyword
  unnormalized : f.normalizer = none

namespace Compiler

/-- The value that a text stands for in a field: normalized, and read as the field's type of value.
-/
def fieldValue (c : Compiler) (resource : String) (f : Field) (text : String) :
    Except CompileError Value := do
  checkValue f (← c.normalizedValue resource (.field f) text)

variable {c : Compiler} {resource : String} {f : Field}

theorem fieldValue_eq_ok_iff {text : String} {w : Value} :
    c.fieldValue resource f text = .ok w ↔
      ∃ v, c.normalizedValue resource (.field f) text = .ok v ∧ checkValue f v = .ok w :=
  bind_eq_ok_iff

theorem targetQuery_field_eq_ok_iff {k : Catalog} {s : Strategy} {v : Value}
    {modifiers : List Modifier} {q : Query} (hfull : f.isFulltext = false) :
    targetQuery k resource s v modifiers (.field f) = .ok q ↔
      (isPattern v = true → f.valueType = .keyword) ∧
        ∃ w, checkValue f v = .ok w ∧ s.onTerm w f.path = .ok q := by
  rw [targetQuery, hfull, if_neg Bool.false_ne_true]
  by_cases hpattern : isPattern v = true ∧ f.valueType ≠ .keyword
  · rw [if_pos (by simpa using hpattern)]
    refine iff_of_false (by simp) ?_
    rintro ⟨hkeyword, -⟩
    exact hpattern.2 (hkeyword hpattern.1)
  · have hkeyword : isPattern v = true → f.valueType = .keyword := by simpa using hpattern
    rw [if_neg (by simpa using hpattern), and_iff_right hkeyword, bind_eq_ok_iff]

/-- A clause on the path of a field that is not full-text: its value is normalized, fits the type of
the field, and goes to the strategy of the comparator. -/
theorem clauseQuery_field_eq_ok_iff {comparator text : String} {modifiers : List Modifier}
    {q : Query} (hf : c.catalog.NamedByPath resource f) (hfull : f.isFulltext = false)
    (hall : isMatchAll ⟨f.path, comparator, text, modifiers⟩ = false) :
    c.clauseQuery resource ⟨f.path, comparator, text, modifiers⟩ = .ok q ↔
      ∃ v s w, c.normalizedValue resource (.field f) text = .ok v ∧
        c.strategyFor v comparator = .ok s ∧ (isPattern v = true → f.valueType = .keyword) ∧
        checkValue f v = .ok w ∧ s.onTerm w f.path = .ok q := by
  constructor
  · intro h
    rcases clauseQuery_eq_ok_iff.1 h with ⟨hmatchAll, -⟩ | ⟨-, t, v, s, ht, hv, hs, hq⟩
    · rw [hall] at hmatchAll
      cases hmatchAll
    · obtain rfl := Option.some.inj (hf.target?.symm.trans ht)
      obtain ⟨hkeyword, w, hw, hq⟩ := (targetQuery_field_eq_ok_iff hfull).1 hq
      exact ⟨v, s, w, hv, hs, hkeyword, hw, hq⟩
  · rintro ⟨v, s, w, hv, hs, hkeyword, hw, hq⟩
    refine clauseQuery_eq_ok_iff.2 (Or.inr ⟨hall, .field f, v, s, hf.target?, hv, hs, ?_⟩)
    exact (targetQuery_field_eq_ok_iff hfull).2 ⟨hkeyword, w, hw, hq⟩

/-! ### Equality and relations -/

theorem isMatchAll_of_ne_equal {index comparator text : String} {modifiers : List Modifier}
    (h : comparator ≠ "=") : isMatchAll ⟨index, comparator, text, modifiers⟩ = false := by
  simp [isMatchAll, h]

/-- Equality of a field with a text that is no pattern. -/
theorem clauseQuery_equal (hd : c.dispatch = .standard) (hf : c.catalog.NamedByPath resource f)
    (hverbatim : f.Verbatim) (hall : Text.eqIgnoreAsciiCase f.path allRecordsIndex = false)
    {text : String} (htext : '*' ∉ text.toList) :
    c.clauseQuery resource ⟨f.path, "=", text, []⟩ = .ok (.term f.path (.text text)) := by
  have hpattern : isPattern (.text text) = false := by simpa [isPattern] using htext
  have hmatchAll : isMatchAll ⟨f.path, "=", text, []⟩ = false := by
    have hstar : text ≠ "*" := by
      rintro rfl
      exact htext (by decide)
    simp [isMatchAll, hall, hstar]
  have hs : Strategy.equal ∈ Strategy.standard := by simp [Strategy.standard]
  refine (clauseQuery_field_eq_ok_iff hf hverbatim.whole hmatchAll).2
    ⟨.text text, .equal, .text text, ?_, ?_, fun _ => hverbatim.keyword, ?_, rfl⟩
  · simp only [normalizedValue, Target.normalizer?, hverbatim.unnormalized]
  · exact strategyFor_of_not_isPattern hd hpattern hs (List.mem_singleton.2 rfl) (by decide)
  · simp only [checkValue, hverbatim.keyword, typedValue]

/-- A relation of a field with a value that is no pattern. -/
theorem clauseQuery_relational (hd : c.dispatch = .standard)
    (hf : c.catalog.NamedByPath resource f) (hfull : f.isFulltext = false)
    {name comparator text : String} {modifiers : List Modifier} {ends : String → Value → Range}
    (hs : Strategy.relational name comparator ends ∈ Strategy.standard)
    (hlower : Text.lowerString comparator = comparator) (hne : comparator ≠ "=") {v w : Value}
    (hv : c.normalizedValue resource (.field f) text = .ok v) (hpattern : isPattern v = false)
    (hw : checkValue f v = .ok w) :
    c.clauseQuery resource ⟨f.path, comparator, text, modifiers⟩ =
      .ok (.range (ends f.path w)) := by
  have hstrategy := strategyFor_of_not_isPattern hd hpattern hs (List.mem_singleton.2 rfl) hlower
  have hkeyword : isPattern v = true → f.valueType = .keyword := by
    rw [hpattern]
    exact fun h => absurd h Bool.false_ne_true
  exact (clauseQuery_field_eq_ok_iff hf hfull (isMatchAll_of_ne_equal hne)).2
    ⟨v, _, w, hv, hstrategy, hkeyword, hw, rfl⟩

/-- A clause that gives a range is no pattern, so the range is the one of its comparator. -/
theorem range_of_clauseQuery (hd : c.dispatch = .standard)
    (hf : c.catalog.NamedByPath resource f) (hfull : f.isFulltext = false)
    {name comparator text : String} {modifiers : List Modifier} {ends : String → Value → Range}
    {r : Range} (hs : Strategy.relational name comparator ends ∈ Strategy.standard)
    (hlower : Text.lowerString comparator = comparator) (hne : comparator ≠ "=")
    (h : c.clauseQuery resource ⟨f.path, comparator, text, modifiers⟩ = .ok (.range r)) :
    ∃ w, c.fieldValue resource f text = .ok w ∧ r = ends f.path w := by
  obtain ⟨v, s, w, hv, hstrategy, -, hw, hq⟩ :=
    (clauseQuery_field_eq_ok_iff hf hfull (isMatchAll_of_ne_equal hne)).1 h
  refine ⟨w, fieldValue_eq_ok_iff.2 ⟨v, hv, hw⟩, ?_⟩
  cases hpattern : isPattern v with
  | true =>
      rw [strategyFor_of_isPattern hd hpattern] at hstrategy
      obtain rfl := Except.ok.inj hstrategy
      cases hq
  | false =>
      have howner := strategyFor_of_not_isPattern hd hpattern hs (List.mem_singleton.2 rfl) hlower
      rw [howner] at hstrategy
      obtain rfl := Except.ok.inj hstrategy
      exact (Query.range.inj (Except.ok.inj hq)).symm

/-- Of two comparators for the same end, one gives the range without its bound and one with it. -/
theorem end_of_clauseQuery {ends : String → Value → Bool → Range} {name strict name' weak : String}
    (hstrict : Strategy.relational name strict (ends · · false) ∈ Strategy.standard)
    (hweak : Strategy.relational name' weak (ends · · true) ∈ Strategy.standard)
    (hproper : ∀ x ∈ [strict, weak], Text.lowerString x = x ∧ x ≠ "=")
    (hd : c.dispatch = .standard) (hf : c.catalog.NamedByPath resource f)
    (hfull : f.isFulltext = false) {comparator text : String} {modifiers : List Modifier}
    {r : Range} (hcomparator : comparator ∈ [strict, weak])
    (h : c.clauseQuery resource ⟨f.path, comparator, text, modifiers⟩ = .ok (.range r)) :
    ∃ w inclusive, c.fieldValue resource f text = .ok w ∧ r = ends f.path w inclusive := by
  obtain ⟨hlower, hne⟩ := hproper comparator hcomparator
  simp only [List.mem_cons, List.not_mem_nil, or_false] at hcomparator
  rcases hcomparator with rfl | rfl
  · obtain ⟨w, hw, hr⟩ := range_of_clauseQuery hd hf hfull hstrict hlower hne h
    exact ⟨w, false, hw, hr⟩
  · obtain ⟨w, hw, hr⟩ := range_of_clauseQuery hd hf hfull hweak hlower hne h
    exact ⟨w, true, hw, hr⟩

theorem upTo_of_clauseQuery (hd : c.dispatch = .standard)
    (hf : c.catalog.NamedByPath resource f) (hfull : f.isFulltext = false)
    {comparator text : String} {modifiers : List Modifier} {r : Range}
    (hcomparator : comparator ∈ ["<", "<="])
    (h : c.clauseQuery resource ⟨f.path, comparator, text, modifiers⟩ = .ok (.range r)) :
    ∃ w inclusive, c.fieldValue resource f text = .ok w ∧ r = .atMost f.path w inclusive := by
  have hstrict : Strategy.lessThan ∈ Strategy.standard := by simp [Strategy.standard]
  have hweak : Strategy.atMost ∈ Strategy.standard := by simp [Strategy.standard]
  exact end_of_clauseQuery hstrict hweak (by decide) hd hf hfull hcomparator h

theorem from_of_clauseQuery (hd : c.dispatch = .standard)
    (hf : c.catalog.NamedByPath resource f) (hfull : f.isFulltext = false)
    {comparator text : String} {modifiers : List Modifier} {r : Range}
    (hcomparator : comparator ∈ [">", ">="])
    (h : c.clauseQuery resource ⟨f.path, comparator, text, modifiers⟩ = .ok (.range r)) :
    ∃ w inclusive, c.fieldValue resource f text = .ok w ∧ r = .atLeast f.path w inclusive := by
  have hstrict : Strategy.greaterThan ∈ Strategy.standard := by simp [Strategy.standard]
  have hweak : Strategy.atLeast ∈ Strategy.standard := by simp [Strategy.standard]
  exact end_of_clauseQuery hstrict hweak (by decide) hd hf hfull hcomparator h

end Compiler

end CatalogSearch
