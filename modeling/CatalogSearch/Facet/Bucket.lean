import CatalogSearch.Facet.Aggregation
import CatalogSearch.NameTable

/-!
The results of aggregations, put back together by facet: the selected values of a facet come before
its other values.
-/

namespace CatalogSearch

/-- A value and how many documents have it. -/
structure Bucket where
  key : Value
  count : Nat
  deriving DecidableEq, Repr

namespace Bucket

/-- The facet whose selected values an aggregation of the given name counts. -/
def selectedFacet? (name : String) : Option String :=
  let mark := FacetRequest.selectedMark.toList
  if mark.isPrefixOf name.toList then some (String.ofList (name.toList.drop mark.length)) else none

def append (t : NameTable (List Bucket)) (facet : String) (buckets : List Bucket) :
    NameTable (List Bucket) :=
  t.insert facet ((t.get? facet).getD [] ++ buckets)

/-- The buckets of facets, from the results of aggregations with their names. -/
def merge (results : List (String × List Bucket)) : NameTable (List Bucket) :=
  let selected := results.filterMap fun (name, buckets) =>
    (selectedFacet? name).map fun facet => (facet, buckets)
  let others := results.filter fun (name, _) => (selectedFacet? name).isNone
  (selected ++ others).foldl (fun t (facet, buckets) => append t facet buckets) .empty

def toJson (b : Bucket) : Json :=
  .object [("key", b.key.toJson), ("doc_count", .integer b.count)]

end Bucket

end CatalogSearch
