import CatalogSearch.Browse.Context
import CatalogSearch.Error

/-!
Recovering a browse context from a compiled query. Three shapes of queries can be browsed: a range
bounded on one side, a choice of two ranges on either side of one anchor, and either of these beside
filters. Any other query is refused with what is wrong with it.
-/

namespace CatalogSearch

/-- A request to browse by a field: the text of the query for error messages, the size of the page,
and how many of its records are to come before the anchor. -/
structure BrowseRequest where
  query : String
  field : String
  limit : Nat
  precedingCount : Option Nat
  deriving DecidableEq, Repr

namespace BrowseRequest

/-- Checks that a range is on the field that is browsed. -/
def checkField (b : BrowseRequest) (r : Range) : Except BrowseFault Unit :=
  if r.field = b.field then .ok () else .error (.otherField r.field b.field)

/-- The context of one range. -/
def oneDirection (b : BrowseRequest) (r : Range) (filters : List Query) :
    Except BrowseFault BrowseContext := do
  b.checkField r
  match r.lower, r.upper with
  | none, some v => return ⟨some r, none, filters, v, some b.limit, none⟩
  | some v, none => return ⟨none, some r, filters, v, none, some b.limit⟩
  | _, _ => throw .notOneBound

/-- How many records of the page come before the anchor. -/
def precedingShare (b : BrowseRequest) : Except BrowseFault Nat :=
  match b.precedingCount with
  | some count =>
    if b.limit < count then .error (.precedingExceedsLimit count b.limit) else .ok count
  | none => .ok (b.limit / 2)

/-- The context of a choice of two ranges with one anchor, in either order. -/
def aroundRanges (b : BrowseRequest) (r s : Range) (filters : List Query) :
    Except BrowseFault BrowseContext := do
  b.checkField r
  b.checkField s
  if r.anchor? ≠ s.anchor? then throw .anchorsDiffer
  let (preceding, succeeding) := if r.isUpperOnly then (r, s) else (s, r)
  if !preceding.isUpperOnly || !succeeding.isLowerOnly then throw .sameDirection
  match preceding.anchor? with
  | none => throw .noAnchor
  | some anchor => do
    let share ← b.precedingShare
    return ⟨some preceding, some succeeding, filters, anchor, some share, some (b.limit - share)⟩

/-- The context of a boolean query that is a choice of two ranges, given filters from around it. -/
def around (b : BrowseRequest) (must should mustNot filter outer : List Query) :
    Except BrowseFault BrowseContext :=
  if !must.isEmpty || !mustNot.isEmpty then .error .besideRanges
  else match should with
    | [.range r, .range s] => b.aroundRanges r s (outer ++ filter)
    | _ => .error .notTwoRanges

/-- The context of a query without sort keys. -/
def ofQuery (b : BrowseRequest) : Query → Except BrowseFault BrowseContext
  | .range r => b.oneDirection r []
  | .bool must should mustNot filter =>
    if !mustNot.isEmpty then .error .negated
    else if must.isEmpty then b.around must should mustNot filter []
    else if filter.isEmpty || !should.isEmpty then .error .besideRange
    else match must with
      | [.range r] => b.oneDirection r filter
      | [.bool must should mustNot inner] => b.around must should mustNot inner filter
      | _ => .error .notOneRange
  | _ => .error (.notARange b.field)

/-- The fault of a query that cannot be browsed, as an error. -/
def withQuery {α : Type} (b : BrowseRequest) : Except BrowseFault α → Except CompileError α
  | .ok a => .ok a
  | .error fault => .error (.invalidBrowseQuery fault b.query)

def context (b : BrowseRequest) (s : SearchQuery) : Except CompileError BrowseContext :=
  b.withQuery (if s.sort.isEmpty then b.ofQuery s.query else .error .sorted)

/-- The context of a query by call number, whose ranges end at an offset from the anchor. -/
def callNumberContext (b : BrowseRequest) (offset : Nat) (s : SearchQuery) :
    Except CompileError BrowseContext := do
  let context ← b.context s
  if context.anchor.long?.isNone then b.withQuery (.error (.anchorNotNumeric context.anchor))
  else return context.withRangeOffset offset

end BrowseRequest

end CatalogSearch
