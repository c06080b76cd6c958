import CatalogSearch.Query.Basic

/-!
What queries find. A document decides the leaves of a query and the single ends of its ranges, and
the four lists of a boolean query are decided from their clauses. Search engines differ in one
point: beside clauses that have to match, a choice of clauses is a demand for some and a mere
preference for others. Both readings are here.
-/

namespace CatalogSearch

/-- All that queries can ask of a document. The last argument of an end of a range says whether the
bound itself is within. -/
structure Document where
  term : String → Value → Bool
  wildcard : String → String → Bool
  fulltext : List String → String → MatchMode → Bool
  atLeast : String → Value → Bool → Bool
  atMost : String → Value → Bool → Bool

/-- Whether a document is within every end that a range has. -/
def Range.admits (r : Range) (d : Document) : Bool :=
  (r.lower.all fun v => d.atLeast r.field v r.includeLower) &&
    (r.upper.all fun v => d.atMost r.field v r.includeUpper)

/-- When one of the clauses of a choice has to match: always, or only where no other clause has
to. -/
inductive ChoiceRule where
  | always
  | withoutDemands
  deriving DecidableEq, Repr

/-- Whether the choice of a boolean query is binding, given its clauses that have to match. -/
def ChoiceRule.binds (rule : ChoiceRule) (must filter : List Query) : Bool :=
  match rule with
  | always => true
  | withoutDemands => must.isEmpty && filter.isEmpty

namespace Query

mutual

/-- Whether a query finds a document. -/
def finds (rule : ChoiceRule) (d : Document) : Query → Bool
  | matchAll => true
  | term field v => d.term field v
  | range r => r.admits d
  | wildcard field pattern => d.wildcard field pattern
  | fulltext fields v mode => d.fulltext fields v mode
  | bool must should mustNot filter =>
    findsAll rule d must && findsAll rule d filter && !findsAny rule d mustNot &&
      (should.isEmpty || !rule.binds must filter || findsAny rule d should)
  | scored q _ => finds rule d q

/-- Whether every query of a list finds a document. -/
def findsAll (rule : ChoiceRule) (d : Document) : List Query → Bool
  | [] => true
  | q :: qs => finds rule d q && findsAll rule d qs

/-- Whether some query of a list finds a document. -/
def findsAny (rule : ChoiceRule) (d : Document) : List Query → Bool
  | [] => false
  | q :: qs => finds rule d q || findsAny rule d qs

end

variable (rule : ChoiceRule) (d : Document)

theorem findsAll_eq_all (qs : List Query) : findsAll rule d qs = qs.all (finds rule d) := by
  induction qs with
  | nil => rfl
  | cons q qs ih => rw [findsAll, ih, List.all_cons]

theorem findsAny_eq_any (qs : List Query) : findsAny rule d qs = qs.any (finds rule d) := by
  induction qs with
  | nil => rfl
  | cons q qs ih => rw [findsAny, ih, List.any_cons]

theorem finds_bool (must should mustNot filter : List Query) :
    (bool must should mustNot filter).finds rule d =
      (must.all (finds rule d) && filter.all (finds rule d) && !mustNot.any (finds rule d) &&
        (should.isEmpty || !rule.binds must filter || should.any (finds rule d))) := by
  simp only [finds, findsAll_eq_all, findsAny_eq_any]

@[simp]
theorem finds_inFilter (q : Query) : q.inFilter.finds rule d = q.finds rule d := by
  simp [inFilter, finds_bool]

/-- A query of demands only. -/
theorem finds_demands (must mustNot : List Query) :
    (bool must [] mustNot []).finds rule d =
      (must.all (finds rule d) && !mustNot.any (finds rule d)) := by
  simp [finds_bool]

/-- A choice that stands alone is binding under either reading. -/
theorem finds_choice (should : List Query) (h : should ≠ []) :
    (bool [] should [] []).finds rule d = should.any (finds rule d) := by
  have hbinds : rule.binds [] [] = true := by cases rule <;> rfl
  rw [finds_bool, hbinds, List.isEmpty_eq_false_iff.2 h]
  simp

end Query

end CatalogSearch
