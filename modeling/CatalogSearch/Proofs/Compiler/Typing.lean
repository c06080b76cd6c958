import CatalogSearch.Proofs.Compiler.Ends
import CatalogSearch.Proofs.Compiler.Field
import CatalogSearch.Proofs.DateTime

/-!
The types of values in queries. The value of a clause is checked against the type of its field
before a strategy makes a query of it. Most strategies put the value into the query as it is; two of
them put its words there instead, each on its own. Integers and truth values are single words, so
this makes no difference to them. A date with white space in it is none after it has been taken
apart.
-/

namespace CatalogSearch

open Query

/-- The values of a type: any value as a keyword, integers of 64 bits, two words as truth values,
and texts that are dates. -/
def ValueType.Accepts : ValueType → Value → Prop
  | .keyword, _ => True
  | .long, v => ∃ n, v = .long n ∧ longMin ≤ n ∧ n ≤ longMax
  | .boolean, v => v = .text "true" ∨ v = .text "false"
  | .date, v => ∃ s, v = .text s ∧ DateTime.isValid s = true

namespace Query

variable {q : Query} {v w : Value}

/-- A value that stands in a query, in a term or at an end of a range, at whatever depth. -/
def Holds (q : Query) (v : Value) : Prop :=
  (∃ field, (term field v).Part q) ∨ ∃ r, (range r).Part q ∧ (r.lower = some v ∨ r.upper = some v)

theorem holds_iff : q.Holds v ↔ (∃ field, q = term field v) ∨
    (∃ r, q = range r ∧ (r.lower = some v ∨ r.upper = some v)) ∨ ∃ c ∈ q.clauses, c.Holds v := by
  constructor
  · rintro (⟨field, hp⟩ | ⟨r, hp, hends⟩)
    · rcases hp.eq_or_clause with rfl | ⟨c, hc, hp⟩
      · exact Or.inl ⟨field, rfl⟩
      · exact Or.inr (Or.inr ⟨c, hc, Or.inl ⟨field, hp⟩⟩)
    · rcases hp.eq_or_clause with rfl | ⟨c, hc, hp⟩
      · exact Or.inr (Or.inl ⟨r, rfl, hends⟩)
      · exact Or.inr (Or.inr ⟨c, hc, Or.inr ⟨r, hp, hends⟩⟩)
  · rintro (⟨field, rfl⟩ | ⟨r, rfl, hends⟩ | ⟨c, hc, ⟨field, hp⟩ | ⟨r, hp, hends⟩⟩)
    · exact Or.inl ⟨field, .whole⟩
    · exact Or.inr ⟨r, .whole, hends⟩
    · exact Or.inl ⟨field, .clause hc hp⟩
    · exact Or.inr ⟨r, .clause hc hp, hends⟩

theorem holds_term {field : String} : (term field w).Holds v ↔ v = w := by
  rw [holds_iff]
  simp [clauses, eq_comm]

theorem holds_range {r : Range} : (range r).Holds v ↔ r.lower = some v ∨ r.upper = some v := by
  rw [holds_iff]
  simp [clauses]

theorem not_holds_wildcard {field pattern : String} : ¬ (wildcard field pattern).Holds v := by
  rw [holds_iff]
  simp [clauses]

theorem holds_bool {must should mustNot filter : List Query} :
    (bool must should mustNot filter).Holds v ↔
      ∃ c ∈ (bool must should mustNot filter).clauses, c.Holds v := by
  rw [holds_iff]
  simp

end Query

/-! ### Strategies -/

namespace Strategy

variable {v w : Value}

/-- What the words of a value are on a field: a value without words stands for itself. -/
def pieces (v : Value) : List Value :=
  if valueWords v = [] then [v] else valueWords v

/-- A strategy that puts values as they are, or not at all, into queries of single fields. -/
def KeepsValues (s : Strategy) : Prop :=
  ∀ v field, Yields (fun q => ∀ w, q.Holds w → w = v) (s.onTerm v field)

/-- A strategy that puts the words of values into queries of single fields. -/
def SplitsValues (s : Strategy) : Prop :=
  ∀ v field, Yields (fun q => ∀ w, q.Holds w ↔ w ∈ pieces v) (s.onTerm v field)

theorem holds_wordTerms {join : List Query → Query}
    (hjoin : ∀ terms, (join terms).Holds w ↔ ∃ q ∈ terms, q.Holds w) (field : String) :
    (wordTerms join v field).Holds w ↔ w ∈ pieces v := by
  unfold wordTerms pieces
  split
  · next hwords => rw [if_pos hwords, holds_term, List.mem_singleton]
  · next word hwords => rw [hwords, if_neg (List.cons_ne_nil _ _), holds_term, List.mem_singleton]
  · next hnil _ =>
      rw [if_neg hnil, hjoin]
      simp only [List.mem_map, exists_exists_and_eq_and, holds_term, exists_eq_right']

theorem splitsValues_all : all.SplitsValues := by
  intro v field
  refine yields_ok fun w => holds_wordTerms (fun terms => ?_) field
  rw [holds_bool]
  simp [clauses]

theorem splitsValues_any : any.SplitsValues := by
  intro v field
  refine yields_ok fun w => holds_wordTerms (fun terms => ?_) field
  rw [anyOf, holds_bool]
  simp [clauses]

theorem keepsValues_of_term {s : Strategy} (h : ∀ v field, s.onTerm v field = .ok (.term field v)) :
    s.KeepsValues := by
  intro v field
  rw [h]
  exact yields_ok fun w => holds_term.1

theorem keepsValues_notEqual : notEqual.KeepsValues := by
  intro v field
  refine yields_ok fun w hw => ?_
  rw [noneOf, holds_bool] at hw
  simpa [clauses, holds_term] using hw

theorem keepsValues_wildcard : wildcard.KeepsValues :=
  fun _ _ => yields_ok fun _ hw => absurd hw not_holds_wildcard

theorem keepsValues_relational {name comparator : String} {ends : String → Value → Range}
    (h : ∀ field v, (ends field v).EndsAt v) : (relational name comparator ends).KeepsValues :=
  fun v field => yields_ok fun _ hw => (h field v).eq_of_end (holds_range.1 hw)

/-- The comparators that take values apart. -/
def wordComparators : List String := ["all", "any"]

theorem splitsValues_of_mem_standard {s : Strategy} (h : s ∈ standard) {comparator : String}
    (hcomparator : comparator ∈ s.comparators) :
    if comparator ∈ wordComparators then s.SplitsValues else s.KeepsValues := by
  simp only [standard, List.mem_cons, List.not_mem_nil, or_false] at h
  rcases h with rfl | rfl | rfl | rfl | rfl | rfl | rfl | rfl | rfl | rfl | rfl <;>
    obtain rfl := List.mem_singleton.1 hcomparator
  · exact keepsValues_of_term fun _ _ => rfl
  · exact keepsValues_of_term fun _ _ => rfl
  · exact splitsValues_all
  · exact splitsValues_any
  · exact keepsValues_of_term fun _ _ => rfl
  · exact keepsValues_notEqual
  · exact keepsValues_relational (Range.endsAt_atLeast · · false)
  · exact keepsValues_relational (Range.endsAt_atLeast · · true)
  · exact keepsValues_relational (Range.endsAt_atMost · · false)
  · exact keepsValues_relational (Range.endsAt_atMost · · true)
  · exact keepsValues_wildcard

end Strategy

/-! ### Values of a type and their words -/

namespace ValueType

open Strategy

theorem typedValue_date_eq_ok_iff {s : String} {v : Value} :
    Compiler.typedValue .date s = .ok v ↔ v = .text s ∧ DateTime.isValid s = true := by
  simp only [Compiler.typedValue]
  split
  · next hvalid => simp [hvalid, eq_comm]
  · next hvalid => simp [hvalid]

theorem accepts_of_typedValue {t : ValueType} {s : String} {v : Value}
    (h : Compiler.typedValue t s = .ok v) : t.Accepts v := by
  cases t with
  | keyword => trivial
  | date =>
      obtain ⟨rfl, hvalid⟩ := typedValue_date_eq_ok_iff.1 h
      exact ⟨s, rfl, hvalid⟩
  | long =>
      simp only [Compiler.typedValue] at h
      split at h
      · next n hn =>
          have hbounds := (Option.filter_eq_some_iff.1 hn).2
          rw [Bool.and_eq_true, decide_eq_true_eq, decide_eq_true_eq] at hbounds
          exact ⟨n, (Except.ok.inj h).symm, hbounds⟩
      · cases h
  | boolean =>
      simp only [Compiler.typedValue] at h
      split at h
      · next hword =>
          obtain rfl := Except.ok.inj h
          exact hword.imp (congrArg _) (congrArg _)
      · cases h

/-- Integers and truth values are words. -/
theorem accepts_of_mem_pieces {t : ValueType} {v w : Value} (hdate : t ≠ .date)
    (hv : t.Accepts v) (hw : w ∈ pieces v) : t.Accepts w := by
  cases t with
  | keyword => trivial
  | date => exact absurd rfl hdate
  | long =>
      obtain ⟨n, rfl, -⟩ := id hv
      obtain rfl : w = .long n := List.mem_singleton.1 hw
      exact hv
  | boolean =>
      have hpieces : pieces v = [v] := by rcases hv with rfl | rfl <;> decide
      rw [hpieces] at hw
      obtain rfl := List.mem_singleton.1 hw
      exact hv

theorem mem_pieces_date {s : String} (hs : DateTime.isValid s = true) {w : Value} :
    w ∈ pieces (.text s) ↔ ∃ word ∈ Text.words s.toList, w = .text (String.ofList word) := by
  have hwords : valueWords (.text s) ≠ [] := by
    simpa [valueWords] using DateTime.words_ne_nil_of_isValid hs
  rw [pieces, if_neg hwords, valueWords, List.mem_map]
  simp only [eq_comm]

theorem accepts_date_text {s : String} :
    ValueType.date.Accepts (.text s) ↔ DateTime.isValid s = true := by
  simp [Accepts]

/-- The words of a date are dates if there is only one. -/
theorem forall_pieces_date {s : String} (hs : DateTime.isValid s = true) :
    (∀ w ∈ pieces (.text s), ValueType.date.Accepts w) ↔ ¬ 1 < (Text.words s.toList).length := by
  simp only [mem_pieces_date hs]
  constructor
  · intro h hseveral
    obtain ⟨word, hword, hnone⟩ := DateTime.exists_not_isValid_of_words hs hseveral
    have hdate := accepts_date_text.1 (h _ ⟨word, hword, rfl⟩)
    rw [hnone] at hdate
    cases hdate
  · rintro hfew w ⟨word, hword, rfl⟩
    have hpos := List.length_pos_of_mem hword
    obtain ⟨only, honly⟩ : ∃ only, Text.words s.toList = [only] :=
      List.length_eq_one_iff.1 (by omega)
    rw [honly, List.mem_singleton] at hword
    exact accepts_date_text.2 (DateTime.isValid_of_words_eq_singleton hs (hword ▸ honly))

end ValueType

/-! ### Clauses -/

namespace Compiler

open Strategy

variable {c : Compiler} {resource : String} {f : Field} {clause : Clause} {q : Query}

/-- Whether a clause on a field takes a date apart. -/
def SplitsDate (f : Field) (clause : Clause) : Prop :=
  f.valueType = .date ∧ Text.lowerString clause.comparator ∈ wordComparators ∧
    1 < (Text.words clause.term.toList).length

theorem checkValue_text_eq_ok_iff {s : String} {w : Value} :
    checkValue f (.text s) = .ok w ↔ typedValue f.valueType s = .ok w := by
  simp only [checkValue]
  split
  · next hok => rw [hok, Except.ok.injEq, Except.ok.injEq]
  · next herror => simp [herror]

/-- Where values are not normalized, a query comes from the checked value. Values that are not
keywords are not patterns, so the comparator decides. -/
theorem exists_of_clauseQuery (hd : c.dispatch = .standard) (hall : isMatchAll clause = false)
    (ht : target? c.catalog resource (c.catalog.resolveAlias resource clause.index) =
      some (.field f))
    (hfull : f.isFulltext = false) (hnormalizer : f.normalizer = none)
    (htype : f.valueType ≠ .keyword) (hq : c.clauseQuery resource clause = .ok q) :
    ∃ w, typedValue f.valueType clause.term = .ok w ∧
      if Text.lowerString clause.comparator ∈ wordComparators then
        ∀ v, q.Holds v ↔ v ∈ pieces w
      else ∀ v, q.Holds v → v = w := by
  rcases clauseQuery_eq_ok_iff.1 hq with ⟨hmatchAll, -⟩ | ⟨-, t, v, s, ht', hv, hs, hq⟩
  · rw [hall] at hmatchAll
    cases hmatchAll
  obtain rfl := Option.some.inj (ht.symm.trans ht')
  obtain rfl : .text clause.term = v := by
    simpa only [normalizedValue, Target.normalizer?, hnormalizer, Except.ok.injEq] using hv
  obtain ⟨hkeyword, w, hw, hq⟩ := (targetQuery_field_eq_ok_iff hfull).1 hq
  have hpattern : isPattern (.text clause.term) = false :=
    Bool.eq_false_iff.2 fun hpattern => htype (hkeyword hpattern)
  rw [strategyFor_eq_ok_iff, hd, hpattern, if_neg Bool.false_ne_true] at hs
  refine ⟨w, checkValue_text_eq_ok_iff.1 hw, ?_⟩
  have hsplits := splitsValues_of_mem_standard (Dispatch.mem_standard_of_lookup hs)
    (Dispatch.mem_comparators_of_lookup hs)
  split at hsplits
  · next hwords =>
      rw [if_pos hwords]
      exact hsplits w f.path q hq
  · next hwords =>
      rw [if_neg hwords]
      exact hsplits w f.path q hq

/-- **Typed fields and the values they are searched for.** Let a clause name a field without a
normalizer that is not full-text. All values in its query are of the type of the field, except where
the clause takes a date with white space in it apart; then they are the words of the date, not all
of which are dates. -/
theorem accepts_of_clauseQuery (hd : c.dispatch = .standard) (hall : isMatchAll clause = false)
    (ht : target? c.catalog resource (c.catalog.resolveAlias resource clause.index) =
      some (.field f))
    (hfull : f.isFulltext = false) (hnormalizer : f.normalizer = none)
    (hq : c.clauseQuery resource clause = .ok q) :
    ((∀ v, q.Holds v → f.valueType.Accepts v) ↔ ¬ SplitsDate f clause) ∧
      (SplitsDate f clause → ∀ v, q.Holds v ↔
        ∃ word ∈ Text.words clause.term.toList, v = .text (String.ofList word)) := by
  by_cases htype : f.valueType = .keyword
  · have hsplits : ¬ SplitsDate f clause := by
      rintro ⟨hdate, -⟩
      rw [htype] at hdate
      cases hdate
    refine ⟨iff_of_true (fun v _ => ?_) hsplits, fun h => absurd h hsplits⟩
    rw [htype]
    trivial
  obtain ⟨w, hw, hvalues⟩ :=
    exists_of_clauseQuery hd hall ht hfull hnormalizer htype hq
  have haccepts := ValueType.accepts_of_typedValue hw
  by_cases hwords : Text.lowerString clause.comparator ∈ wordComparators
  · rw [if_pos hwords] at hvalues
    simp only [SplitsDate, hwords, true_and, hvalues]
    by_cases hdate : f.valueType = .date
    · rw [hdate] at hw ⊢
      obtain ⟨rfl, hvalid⟩ := ValueType.typedValue_date_eq_ok_iff.1 hw
      simp only [true_and]
      exact ⟨ValueType.forall_pieces_date hvalid, fun _ _ => ValueType.mem_pieces_date hvalid⟩
    · refine ⟨iff_of_true (fun v => ValueType.accepts_of_mem_pieces hdate haccepts) ?_, ?_⟩
      · exact fun h => hdate h.1
      · exact fun h => absurd h.1 hdate
  · rw [if_neg hwords] at hvalues
    refine ⟨iff_of_true (fun v hv => ?_) fun h => hwords h.2.1, fun h => absurd h.2.1 hwords⟩
    rw [hvalues v hv]
    exact haccepts

end Compiler

/-- A catalog of loans, whose due date has an alias and is in a group of its own. -/
def Catalog.loans : Catalog :=
  ⟨.ofList [("loan",
    { name := "loan"
      aliases := .ofList [("deadline", "due")]
      groups := .ofList [("dates", ["due"])]
      fields := .ofList [("due", ⟨"due", [.filter], false, none, .date, none⟩)] })]⟩

namespace Compiler

def loans : Compiler := ⟨.loans, .standard, .standard, .standard⟩

/-- The due date is compared as a whole by one comparator, and word by word by another one. -/
theorem accepts_of_clauseQuery_loans :
    (∃ q, loans.clauseQuery "loan" ⟨"deadline", ">=", "2024-01-31 10:00:00Z", []⟩ = .ok q ∧
      ∀ v, q.Holds v → ValueType.date.Accepts v) ∧
    ∃ q, loans.clauseQuery "loan" ⟨"dates", "ALL", "2024-01-31 10:00:00Z", []⟩ = .ok q ∧
      (¬ ∀ v, q.Holds v → ValueType.date.Accepts v) ∧
      ∀ v, q.Holds v ↔ v = .text "2024-01-31" ∨ v = .text "10:00:00Z" := by
  have hwhole : loans.clauseQuery "loan" ⟨"deadline", ">=", "2024-01-31 10:00:00Z", []⟩ =
      .ok (.range (.atLeast "due" (.text "2024-01-31 10:00:00Z") true)) := by
    decide +kernel
  have hwords : loans.clauseQuery "loan" ⟨"dates", "ALL", "2024-01-31 10:00:00Z", []⟩ =
      .ok (.bool [.term "due" (.text "2024-01-31"), .term "due" (.text "10:00:00Z")] [] [] []) := by
    decide +kernel
  have hsplits : SplitsDate ⟨"due", [.filter], false, none, .date, none⟩
      ⟨"dates", "ALL", "2024-01-31 10:00:00Z", []⟩ := by
    unfold SplitsDate
    decide +kernel
  have hkept : ¬ SplitsDate ⟨"due", [.filter], false, none, .date, none⟩
      ⟨"deadline", ">=", "2024-01-31 10:00:00Z", []⟩ := by
    unfold SplitsDate
    decide +kernel
  have hdeadline := accepts_of_clauseQuery rfl (by decide) rfl (by decide) rfl hwhole
  have hdates := accepts_of_clauseQuery rfl (by decide) rfl (by decide) rfl hwords
  refine ⟨⟨_, hwhole, hdeadline.1.2 hkept⟩, _, hwords, fun h => hdates.1.1 h hsplits, fun v => ?_⟩
  have hlist : Text.words "2024-01-31 10:00:00Z".toList =
      ["2024-01-31".toList, "10:00:00Z".toList] := by
    decide +kernel
  rw [hdates.2 hsplits v, hlist]
  simp

/-- Not all values in the query of a date field are dates. -/
theorem not_forall_accepts_of_clauseQuery :
    ¬ ∀ (c : Compiler) (resource : String) (f : Field) (clause : Clause) (q : Query),
      c.dispatch = .standard → isMatchAll clause = false →
      target? c.catalog resource (c.catalog.resolveAlias resource clause.index) =
        some (.field f) →
      f.isFulltext = false → f.normalizer = none → c.clauseQuery resource clause = .ok q →
      ∀ v, q.Holds v → f.valueType.Accepts v := by
  intro h
  have hholds : (Query.bool [.term "due" (.text "2024-01-31"), .term "due" (.text "10:00:00Z")]
      [] [] []).Holds (.text "10:00:00Z") :=
    holds_bool.2 ⟨.term "due" (.text "10:00:00Z"), by simp [clauses], holds_term.2 rfl⟩
  have haccepts := h loans "loan" ⟨"due", [.filter], false, none, .date, none⟩
    ⟨"due", "all", "2024-01-31 10:00:00Z", []⟩ _ rfl (by decide) rfl (by decide) rfl
    (by decide +kernel) _ hholds
  exact absurd (ValueType.accepts_date_text.1 haccepts) (by decide +kernel)

end Compiler

end CatalogSearch
