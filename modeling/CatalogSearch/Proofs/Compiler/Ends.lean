import CatalogSearch.Proofs.Compiler.Shape
import CatalogSearch.Proofs.Normalizer.CallNumber

/-!
The ends of the ranges in compiled queries. A clause gives a range one end and leaves the other one
open, ranges that become one keep their ends as they are, and all else moves ranges around. So
wherever a range stands in a compiled query, an end that it lacks excludes nothing, and an integer
that bounds it is one of 64 bits.
-/

namespace CatalogSearch

/-- A text, or an integer of 64 bits. -/
def Value.Fits (v : Value) : Prop := ∀ n, v = .long n → longMin ≤ n ∧ n ≤ longMax

theorem Value.fits_text (s : String) : (Value.text s).Fits := by
  rintro n ⟨⟩

namespace Range

/-- A range with one end, at a value. -/
def EndsAt (r : Range) (v : Value) : Prop :=
  ∃ field inclusive, r = .atLeast field v inclusive ∨ r = .atMost field v inclusive

/-- A range whose open ends exclude nothing and whose integer bounds are of 64 bits. -/
structure Regular (r : Range) : Prop where
  includeLower : r.lower = none → r.includeLower = true
  includeUpper : r.upper = none → r.includeUpper = true
  lower : ∀ v ∈ r.lower, v.Fits
  upper : ∀ v ∈ r.upper, v.Fits

theorem endsAt_atLeast (field : String) (v : Value) (inclusive : Bool) :
    (atLeast field v inclusive).EndsAt v :=
  ⟨field, inclusive, Or.inl rfl⟩

theorem endsAt_atMost (field : String) (v : Value) (inclusive : Bool) :
    (atMost field v inclusive).EndsAt v :=
  ⟨field, inclusive, Or.inr rfl⟩

theorem EndsAt.eq_of_end {r : Range} {v w : Value} (h : r.EndsAt v)
    (hw : r.lower = some w ∨ r.upper = some w) : w = v := by
  obtain ⟨field, inclusive, rfl | rfl⟩ := h
  · rcases hw with hw | hw
    · exact (Option.some.inj hw).symm
    · cases hw
  · rcases hw with hw | hw
    · cases hw
    · exact (Option.some.inj hw).symm

theorem EndsAt.regular {r : Range} {v : Value} (h : r.EndsAt v) (hv : v.Fits) : r.Regular := by
  obtain ⟨field, inclusive, rfl | rfl⟩ := h
  · refine ⟨?_, fun _ => rfl, ?_, ?_⟩
    · rintro ⟨⟩
    · rintro _ ⟨⟩
      exact hv
    · rintro _ ⟨⟩
  · refine ⟨fun _ => rfl, ?_, ?_, ?_⟩
    · rintro ⟨⟩
    · rintro _ ⟨⟩
    · rintro _ ⟨⟩
      exact hv

/-- Each end of the range between two ranges is an end of one of them. -/
theorem Regular.collapse {r s : Range} (hr : r.Regular) (hs : s.Regular) :
    (r.collapse s).Regular := by
  cases hlower : r.lower with
  | none =>
      have hcollapse : r.collapse s =
          ⟨s.field, s.lower, r.upper, s.includeLower, r.includeUpper⟩ := by
        simp [Range.collapse, lowerFirst, hlower]
      rw [hcollapse]
      exact ⟨hs.includeLower, hr.includeUpper, hs.lower, hr.upper⟩
  | some v =>
      have hcollapse : r.collapse s =
          ⟨r.field, r.lower, s.upper, r.includeLower, s.includeUpper⟩ := by
        simp [Range.collapse, lowerFirst, hlower]
      rw [hcollapse]
      exact ⟨hr.includeLower, hs.includeUpper, hr.lower, hs.upper⟩

end Range

namespace Query

/-- Whether all ranges in a query have a property, at whatever depth they stand. -/
def EveryRange (P : Range → Prop) (q : Query) : Prop := ∀ r, (range r).Part q → P r

variable {P Q : Range → Prop} {q r : Query}

theorem EveryRange.mono (h : q.EveryRange P) (hPQ : ∀ r, P r → Q r) : q.EveryRange Q :=
  fun r hr => hPQ r (h r hr)

theorem EveryRange.clause {c : Query} (h : q.EveryRange P) (hc : c ∈ q.clauses) :
    c.EveryRange P :=
  fun r hr => h r (.clause hc hr)

theorem everyRange_range {s : Range} (h : P s) : (range s).EveryRange P := by
  intro r hr
  rcases hr.eq_or_clause with hr | ⟨c, hc, -⟩
  · rwa [range.inj hr]
  · cases hc

/-- Only the clauses of a query that is no range have to be looked at. -/
theorem everyRange_of_clauses (hq : ∀ r, q ≠ range r)
    (h : ∀ c ∈ q.clauses, c.EveryRange P) : q.EveryRange P := by
  intro r hr
  rcases hr.eq_or_clause with hr | ⟨c, hc, hr⟩
  · exact absurd hr.symm (hq r)
  · exact h c hc r hr

theorem everyRange_leaf (hq : ∀ r, q ≠ range r) (hclauses : q.clauses = []) :
    q.EveryRange P := by
  refine everyRange_of_clauses hq ?_
  rw [hclauses]
  exact fun _ hc => absurd hc List.not_mem_nil

theorem everyRange_bool {must should mustNot filter : List Query}
    (h : ∀ c ∈ (bool must should mustNot filter).clauses, c.EveryRange P) :
    (bool must should mustNot filter).EveryRange P :=
  everyRange_of_clauses (fun _ => Query.noConfusion) h

/-! ### Connectives and promotion -/

theorem mem_clauses_joinMust {c : Query} (hc : c ∈ (q.joinMust r).clauses) :
    c = q ∨ c = r ∨ c ∈ q.clauses := by
  rcases joinMust_cases q r with ⟨must, should, mustNot, filter, -, rfl, h⟩ | h
  · rw [h] at hc
    simp only [clauses, List.mem_append, List.mem_singleton] at hc ⊢
    tauto
  · rw [h] at hc
    simp only [clauses, List.append_nil, List.mem_cons, List.not_mem_nil, or_false] at hc
    tauto

theorem mem_clauses_joinShould {c : Query} (hc : c ∈ (q.joinShould r).clauses) :
    c = q ∨ c = r ∨ c ∈ q.clauses := by
  rcases joinShould_cases q r with ⟨must, should, mustNot, filter, -, rfl, h⟩ | h
  · rw [h] at hc
    simp only [clauses, List.mem_append, List.mem_singleton] at hc ⊢
    tauto
  · rw [h] at hc
    simp only [clauses, List.nil_append, List.append_nil, List.mem_cons, List.not_mem_nil,
      or_false] at hc
    tauto

/-- A query whose clauses are two queries, or clauses of the first one of them. -/
theorem everyRange_of_joined {p : Query} (hp : ∀ s, p ≠ range s)
    (hclauses : ∀ c ∈ p.clauses, c = q ∨ c = r ∨ c ∈ q.clauses) (hq : q.EveryRange P)
    (hr : r.EveryRange P) : p.EveryRange P := by
  refine everyRange_of_clauses hp ?_
  intro c hc
  rcases hclauses c hc with rfl | rfl | hc
  · exact hq
  · exact hr
  · exact hq.clause hc

theorem joinMust_ne_range (q r : Query) (s : Range) : q.joinMust r ≠ range s := by
  unfold joinMust
  split <;> exact Query.noConfusion

theorem joinShould_ne_range (q r : Query) (s : Range) : q.joinShould r ≠ range s := by
  unfold joinShould
  split <;> exact Query.noConfusion

theorem everyRange_conjunction (hcollapse : ∀ s t, P s → P t → P (s.collapse t))
    (hq : q.EveryRange P) (hr : r.EveryRange P) : (q.conjunction r).EveryRange P := by
  rcases conjunction_cases q r with ⟨s, t, rfl, rfl, -, h⟩ | h
  · rw [h]
    exact everyRange_range (hcollapse s t (hq s .whole) (hr t .whole))
  · rw [h]
    exact everyRange_of_joined (joinMust_ne_range q r) (fun _ => mem_clauses_joinMust) hq hr

theorem everyRange_disjunction (hq : q.EveryRange P) (hr : r.EveryRange P) :
    (q.disjunction r).EveryRange P :=
  everyRange_of_joined (joinShould_ne_range q r) (fun _ => mem_clauses_joinShould) hq hr

theorem everyRange_difference (hq : q.EveryRange P) (hr : r.EveryRange P) :
    (q.difference r).EveryRange P := by
  apply everyRange_bool
  simpa [clauses] using And.intro hq hr

theorem everyRange_promote {k : Catalog} {resource : String} (h : q.EveryRange P) :
    (q.promote k resource).EveryRange P := by
  by_cases hq : q.FilterClause k resource
  · rw [promote_of_filterClause hq]
    apply everyRange_bool
    simpa [clauses] using h
  · cases q with
    | bool must should mustNot filter =>
        have hclauses := fun c => mem_clauses_promote (c := c) hq
        rw [promote_bool hq] at hclauses ⊢
        exact everyRange_bool fun c hc => h.clause ((hclauses c).1 hc)
    | _ =>
        rw [promote_leaf hq (by simp)]
        exact h

end Query

/-! ### Strategies -/

/-- A strategy whose ranges have their one end at the value that it is given. -/
structure Strategy.EndsRanges (s : Strategy) : Prop where
  onGroup : ∀ v members, Yields (Query.EveryRange (Range.EndsAt · v)) (s.onGroup v members)
  onFulltext : ∀ v t modifiers,
    Yields (Query.EveryRange (Range.EndsAt · v)) (s.onFulltext v t modifiers)
  onTerm : ∀ v field, Yields (Query.EveryRange (Range.EndsAt · v)) (s.onTerm v field)

namespace Strategy

open Query

variable {P : Range → Prop}

theorem everyRange_term {field : String} {v : Value} : (term field v).EveryRange P :=
  everyRange_leaf (fun _ => Query.noConfusion) rfl

theorem everyRange_fulltext {fields : List String} {v : String} {mode : MatchMode} :
    (fulltext fields v mode).EveryRange P :=
  everyRange_leaf (fun _ => Query.noConfusion) rfl

theorem everyRange_wildcard {field pattern : String} :
    (Query.wildcard field pattern).EveryRange P :=
  everyRange_leaf (fun _ => Query.noConfusion) rfl

theorem everyRange_noneOf {q : Query} (h : q.EveryRange P) : (noneOf q).EveryRange P := by
  apply everyRange_bool
  simpa [clauses] using h

theorem everyRange_anyOf_map {α : Type} {f : α → Query} (h : ∀ x, (f x).EveryRange P)
    (xs : List α) : (anyOf (xs.map f)).EveryRange P := by
  apply everyRange_bool
  intro c hc
  have hmap : c ∈ xs.map f := by simpa [clauses] using hc
  obtain ⟨x, -, rfl⟩ := List.mem_map.1 hmap
  exact h x

theorem everyRange_wordTerms {join : List Query → Query}
    (hjoin : ∀ terms, (∀ q ∈ terms, q.EveryRange P) → (join terms).EveryRange P)
    (v : Value) (field : String) : (wordTerms join v field).EveryRange P := by
  unfold wordTerms
  split
  · exact everyRange_term
  · exact everyRange_term
  · apply hjoin
    intro q hq
    obtain ⟨word, -, rfl⟩ := List.mem_map.1 hq
    exact everyRange_term

theorem endsRanges_equal : equal.EndsRanges where
  onGroup _ _ := yields_ok everyRange_fulltext
  onFulltext v t modifiers := by
    simp only [equal]
    split
    · exact yields_ok everyRange_term
    · exact yields_ok everyRange_fulltext
  onTerm _ _ := yields_ok everyRange_term

theorem endsRanges_exact : exact.EndsRanges where
  onGroup _ members := yields_ok (everyRange_anyOf_map (fun _ => everyRange_term) members)
  onFulltext _ _ _ := yields_ok everyRange_term
  onTerm _ _ := yields_ok everyRange_term

theorem endsRanges_all : all.EndsRanges where
  onGroup _ _ := yields_ok everyRange_fulltext
  onFulltext _ _ _ := yields_ok everyRange_fulltext
  onTerm v field := by
    apply yields_ok
    apply everyRange_wordTerms
    intro terms hterms
    apply everyRange_bool
    simpa [clauses] using hterms

theorem endsRanges_any : any.EndsRanges where
  onGroup _ _ := yields_ok everyRange_fulltext
  onFulltext _ _ _ := yields_ok everyRange_fulltext
  onTerm v field := by
    apply yields_ok
    apply everyRange_wordTerms
    intro terms hterms
    apply everyRange_bool
    simpa [clauses] using hterms

theorem endsRanges_adjacent : adjacent.EndsRanges where
  onGroup _ _ := yields_ok everyRange_fulltext
  onFulltext _ _ _ := yields_ok everyRange_fulltext
  onTerm _ _ := yields_ok everyRange_term

theorem endsRanges_notEqual : notEqual.EndsRanges where
  onGroup _ _ := yields_ok (everyRange_noneOf everyRange_fulltext)
  onFulltext _ _ _ := yields_ok (everyRange_noneOf everyRange_fulltext)
  onTerm _ _ := yields_ok (everyRange_noneOf everyRange_term)

theorem endsRanges_relational {ends : String → Value → Range}
    (h : ∀ field v, (ends field v).EndsAt v) (name comparator : String) :
    (relational name comparator ends).EndsRanges where
  onGroup _ _ := yields_error _ _
  onFulltext v t _ := yields_ok (everyRange_range (h t.path v))
  onTerm v field := yields_ok (everyRange_range (h field v))

theorem endsRanges_wildcard : wildcard.EndsRanges where
  onGroup _ members := yields_ok (everyRange_anyOf_map (fun _ => everyRange_wildcard) members)
  onFulltext _ _ _ := yields_ok everyRange_wildcard
  onTerm _ _ := yields_ok everyRange_wildcard

theorem endsRanges_of_mem_standard {s : Strategy} (h : s ∈ standard) : s.EndsRanges := by
  simp only [standard, List.mem_cons, List.not_mem_nil, or_false] at h
  rcases h with rfl | rfl | rfl | rfl | rfl | rfl | rfl | rfl | rfl | rfl | rfl
  · exact endsRanges_equal
  · exact endsRanges_exact
  · exact endsRanges_all
  · exact endsRanges_any
  · exact endsRanges_adjacent
  · exact endsRanges_notEqual
  · exact endsRanges_relational (Range.endsAt_atLeast · · false) ..
  · exact endsRanges_relational (Range.endsAt_atLeast · · true) ..
  · exact endsRanges_relational (Range.endsAt_atMost · · false) ..
  · exact endsRanges_relational (Range.endsAt_atMost · · true) ..
  · exact endsRanges_wildcard

end Strategy

/-! ### Values -/

theorem NormalizerRegistry.fits_normalize? {name text : String} {v : Value}
    (h : standard.normalize? name text = some v) : v.Fits := by
  obtain ⟨f, hf, rfl⟩ := Option.map_eq_some_iff.1 h
  have hmem : (name, f) ∈ builtIn := NameTable.mem_of_get?_ofList hf
  simp only [builtIn, List.mem_cons, Prod.mk.injEq, List.not_mem_nil, or_false] at hmem
  rcases hmem with ⟨-, rfl⟩ | ⟨-, rfl⟩ | ⟨-, rfl⟩ | ⟨-, rfl⟩ | ⟨-, rfl⟩ | ⟨-, rfl⟩
  · rintro n ⟨⟩
    have hlt := CallNumber.encode_lt_longMax text
    unfold longMin
    omega
  all_goals exact Value.fits_text _

namespace Compiler

variable {c : Compiler} {resource : String}

theorem fits_normalizedValue (hn : c.normalizers = .standard) (t : Target) (text : String) :
    Yields Value.Fits (c.normalizedValue resource t text) := by
  unfold normalizedValue
  rw [hn]
  split
  · exact yields_ok (Value.fits_text text)
  · split
    · next v hv => exact yields_ok (NormalizerRegistry.fits_normalize? hv)
    · exact yields_error _ _

theorem fits_typedValue (t : ValueType) (s : String) : Yields Value.Fits (typedValue t s) := by
  cases t with
  | keyword => exact yields_ok (Value.fits_text s)
  | date =>
      simp only [typedValue]
      split
      · exact yields_ok (Value.fits_text s)
      · exact yields_error _ _
  | long =>
      simp only [typedValue]
      split
      · next n hn =>
          have hbounds := (Option.filter_eq_some_iff.1 hn).2
          apply yields_ok
          rintro _ ⟨⟩
          simpa using hbounds
      · exact yields_error _ _
  | boolean =>
      simp only [typedValue]
      split
      · exact yields_ok (Value.fits_text _)
      · exact yields_error _ _

theorem fits_checkValue {f : Field} {v : Value} (hv : v.Fits) :
    Yields Value.Fits (checkValue f v) := by
  cases v with
  | long n => exact yields_ok hv
  | text s =>
      simp only [checkValue]
      split
      · next w hw => exact yields_ok (fits_typedValue _ s w hw)
      · exact yields_error _ _

/-! ### Compiled queries -/

theorem everyRange_targetQuery {s : Strategy} (hs : s.EndsRanges) {v : Value} (hv : v.Fits)
    (modifiers : List Modifier) (t : Target) :
    Yields (Query.EveryRange Range.Regular) (targetQuery c.catalog resource s v modifiers t) := by
  have hregular {w : Value} (hw : w.Fits) (r : Range) (hr : r.EndsAt w) : r.Regular := hr.regular hw
  unfold targetQuery
  split
  · exact fun q hq => (hs.onGroup v _ q hq).mono (hregular hv)
  · next f =>
      split
      · exact fun q hq => (hs.onFulltext v _ modifiers q hq).mono (hregular hv)
      · split
        · exact yields_error _ _
        · intro q hq
          obtain ⟨w, hw, hq⟩ := bind_eq_ok_iff.1 hq
          exact (hs.onTerm w f.path q hq).mono (hregular (fits_checkValue hv w hw))

theorem everyRange_clauseQuery (hd : c.dispatch = .standard) (hn : c.normalizers = .standard)
    (clause : Clause) :
    Yields (Query.EveryRange Range.Regular) (c.clauseQuery resource clause) := by
  intro q hq
  rcases clauseQuery_eq_ok_iff.1 hq with ⟨-, rfl⟩ | ⟨-, t, v, s, -, hv, hs, hq⟩
  · exact Query.everyRange_leaf (fun _ => Query.noConfusion) rfl
  · rw [strategyFor_eq_ok_iff, hd] at hs
    have hends := Strategy.endsRanges_of_mem_standard (Dispatch.mem_standard_of_lookup hs)
    exact everyRange_targetQuery hends (fits_normalizedValue hn t clause.term v hv) _ t q hq

theorem everyRange_combine {op : Connective} {combine : Query → Query → Query} {q r : Query}
    (h : combine? op = some combine) (hq : q.EveryRange Range.Regular)
    (hr : r.EveryRange Range.Regular) : (combine q r).EveryRange Range.Regular := by
  cases op with
  | and =>
      obtain rfl := Option.some.inj h
      exact Query.everyRange_conjunction (fun _ _ => Range.Regular.collapse) hq hr
  | or =>
      obtain rfl := Option.some.inj h
      exact Query.everyRange_disjunction hq hr
  | not =>
      obtain rfl := Option.some.inj h
      exact Query.everyRange_difference hq hr
  | prox => cases h

theorem everyRange_expressionQuery (hd : c.dispatch = .standard)
    (hn : c.normalizers = .standard) (e : Expression) :
    Yields (Query.EveryRange Range.Regular) (c.expressionQuery resource e) := by
  induction e with
  | clause clause => exact everyRange_clauseQuery hd hn clause
  | boolean op left right ihleft ihright =>
      intro p hp
      obtain ⟨combine, q, r, hcombine, hq, hr, rfl⟩ := expressionQuery_boolean_eq_ok_iff.1 hp
      exact everyRange_combine hcombine (ihleft q hq) (ihright r hr)
  | sorted subtree indexes _ => exact yields_error _ _
  | assigned name uri subtree _ => exact yields_error _ _

/-- All ranges of a compiled query are regular, wherever they stand. -/
theorem everyRange_compile (hd : c.dispatch = .standard) (hn : c.normalizers = .standard)
    {e : Expression} {s : SearchQuery} (h : c.compile resource e = .ok s) :
    s.query.EveryRange Range.Regular := by
  obtain ⟨q, sort, hq, -, rfl⟩ := compile_eq_ok_iff.1 h
  exact Query.everyRange_promote (everyRange_expressionQuery hd hn _ q hq)

end Compiler

end CatalogSearch
