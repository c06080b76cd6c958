import CatalogSearch.Catalog.Basic
import CatalogSearch.Query.Basic

/-!
Promotion of clauses to filters. A clause that compares a field with exact values, where the catalog
allows it, does not count for the score of a document, so it can stand among the filters instead of
among the clauses that have to match.
-/

namespace CatalogSearch.Query

/-- Whether a query compares a field that can be filtered by with one value or with a choice of
values. -/
def isFilterClause (k : Catalog) (resource : String) (q : Query) : Bool :=
  match q.termField? <|> q.disjunctionField? with
  | some field => (k.fieldWith? resource field .filter).isSome
  | none => false

/-- Moves what can be a filter to the filters: the query as a whole, or else those of its clauses
that have to match, which keep their order and come after the filters that are there. -/
def promote (k : Catalog) (resource : String) (q : Query) : Query :=
  if q.isFilterClause k resource then q.inFilter
  else match q with
    | bool must should mustNot filter =>
      bool (must.filter fun c => !c.isFilterClause k resource) should mustNot
        (filter ++ must.filter fun c => c.isFilterClause k resource)
    | _ => q

end CatalogSearch.Query
