import CatalogSearch.Query.Basic

/-!
How the queries of two operands make the query of a connective. A chain of the same connective
becomes one flat list of clauses, and two ranges of one field that both have to hold become one
range.
-/

namespace CatalogSearch

namespace Range

/-- Which of two ranges gives the lower end and which the upper one. -/
def lowerFirst (r s : Range) : Range × Range := if r.lower.isSome then (r, s) else (s, r)

/-- The range between the lower end of one range and the upper end of the other. -/
def collapse (r s : Range) : Range :=
  let (lower, upper) := lowerFirst r s
  ⟨lower.field, lower.lower, upper.upper, lower.includeLower, upper.includeUpper⟩

/-- Whether neither range has the end that the other lacks. -/
def collapsesAmbiguously (r s : Range) : Bool :=
  let (lower, upper) := lowerFirst r s
  upper.upper.isNone || lower.lower.isNone

end Range

namespace Query

/-- Adds a clause that has to match to a query that already joins two or more such clauses, or joins
the two. -/
def joinMust (q r : Query) : Query :=
  match q with
  | bool (a :: b :: must) should mustNot filter =>
    bool (a :: b :: must ++ [r]) should mustNot filter
  | _ => bool [q, r] [] [] []

/-- Adds a clause to a query that already has a choice of two or more, or makes a choice of the
two. -/
def joinShould (q r : Query) : Query :=
  match q with
  | bool must (a :: b :: should) mustNot filter =>
    bool must (a :: b :: should ++ [r]) mustNot filter
  | _ => bool [] [q, r] [] []

/-- The query for what both queries find. -/
def conjunction (q r : Query) : Query :=
  match q, r with
  | range s, range t => if s.field = t.field then range (s.collapse t) else joinMust q r
  | _, _ => joinMust q r

/-- The query for what either query finds. -/
def disjunction (q r : Query) : Query := joinShould q r

/-- The query for what the first query finds and the second does not. -/
def difference (q r : Query) : Query := bool [q] [] [r] []

end Query

end CatalogSearch
