import CatalogSearch.Catalog.Basic
import CatalogSearch.Facet.Request

/-!
The aggregations that count the values of facets. The values that a query already filters by are
counted apart from the others, and what a facet counts is not narrowed by its own filters but by all
other ones.
-/

namespace CatalogSearch

namespace Query

/-- The filters of a boolean query that is scored. -/
def scoredFilters : Query → List Query
  | scored (bool _ _ _ filter) _ => filter
  | _ => []

/-- The filters of a query: those at its root, and those of scored queries that have to match. -/
def scopedFilters : Query → List Query
  | bool must _ _ filter => filter ++ must.flatMap scoredFilters
  | _ => []

/-- The values of a field that a filter selects, if it is a term on the field or a choice of such
terms. -/
def selectedValues (field : String) (q : Query) : List Value :=
  match q with
  | term f v => if f = field then [v] else []
  | bool _ should _ _ =>
    if q.disjunctionField? = some field then should.filterMap termValue? else []
  | _ => []

end Query

/-- The elements of a list without repetitions, in the order of their first occurrences. -/
def firstOccurrences {α : Type} [DecidableEq α] (xs : List α) : List α :=
  xs.foldl (fun seen x => if x ∈ seen then seen else seen ++ [x]) []

/-- The filters of a query as a facet on a field sees them: the values that are selected, and the
filters that say nothing about the field. -/
structure FacetScope where
  selected : List Value
  remaining : List Query
  deriving DecidableEq, Repr

namespace FacetScope

def ofQuery (field : String) (q : Query) : FacetScope where
  selected := firstOccurrences (q.scopedFilters.flatMap (Query.selectedValues field))
  remaining := q.scopedFilters.filter fun filter => (filter.selectedValues field).isEmpty

end FacetScope

namespace FacetRequest

/-- The mark on the names of aggregations of selected values. -/
def selectedMark : String := "selected_"

/-- The field that a facet counts: the first member of a group, or the field of its name. -/
def field (k : Catalog) (resource : String) (r : FacetRequest) : Except CompileError String :=
  let path := (k.resolveGroup resource r.name).head?.getD r.name
  match k.fieldWith? resource path .facet with
  | some f => .ok f.path
  | none => .error (.invalidFacetField r.name resource)

/-- The aggregations of values: all of them if none is selected, and otherwise those that are not,
as far as the size leaves room, and those that are. -/
def termAggregations (r : FacetRequest) (field : String) (selected : List Value) :
    List Aggregation :=
  let count := selected.length
  let chosen := .terms (selectedMark ++ r.name) field (some count) selected []
  if selected.isEmpty then [.terms r.name field r.size [] []]
  else match r.size with
    | some size =>
      if size ≤ count then [chosen]
      else [.terms r.name field (some (size - count)) [] selected, chosen]
    | none => [.terms r.name field none [] selected, chosen]

def scopedAggregations (r : FacetRequest) (field : String) (s : FacetScope) : List Aggregation :=
  let terms := r.termAggregations field s.selected
  if s.remaining.isEmpty then terms else [.filter r.name s.remaining terms]

def aggregations (k : Catalog) (resource : String) (q : Query) (r : FacetRequest) :
    Except CompileError (List Aggregation) := do
  let field ← r.field k resource
  return r.scopedAggregations field (.ofQuery field q)

end FacetRequest

def Catalog.facetAggregations (k : Catalog) (resource : String) (q : Query)
    (facets : List String) : Except CompileError (List Aggregation) := do
  let parts ← facets.mapM fun facet => do
    (← FacetRequest.parse facet).aggregations k resource q
  return parts.flatten

end CatalogSearch
