import CatalogSearch.Query.Basic

/-!
The JSON form of queries, sort keys and aggregations. A query is an object whose only key is its
kind, except that the query that matches everything is a word. Lists without items and unset
options are left out.
-/

namespace CatalogSearch

def Range.toJson (r : Range) : Json :=
  .object <| ("field", .string r.field) ::
    (Json.optional "from" Value.toJson r.lower ++ Json.optional "to" Value.toJson r.upper ++
      [("include_lower", .bool r.includeLower), ("include_upper", .bool r.includeUpper)])

namespace Query

mutual

def toJson : Query → Json
  | matchAll => .string "match_all"
  | term field v => .object [("term", .object [("field", .string field), ("value", v.toJson)])]
  | range r => .object [("range", r.toJson)]
  | wildcard field pattern =>
    .object [("wildcard", .object [("field", .string field), ("pattern", .string pattern)])]
  | fulltext fields v mode =>
    .object [("fulltext", .object [("fields", .array (fields.map .string)), ("value", .string v),
      ("mode", .string mode.text)])]
  | bool must should mustNot filter =>
    .object [("bool", .object (Json.unlessEmpty "must" (listToJson must) ++
      Json.unlessEmpty "should" (listToJson should) ++
      Json.unlessEmpty "must_not" (listToJson mustNot) ++
      Json.unlessEmpty "filter" (listToJson filter)))]
  | scored q boost =>
    .object [("scored", .object [("query", q.toJson), ("boost", .decimal boost)])]

def listToJson : List Query → List Json
  | [] => []
  | q :: qs => q.toJson :: listToJson qs

end

end Query

def SortOrder.text : SortOrder → String
  | ascending => "asc"
  | descending => "desc"

def SortMode.text : SortMode → String
  | min => "min"
  | max => "max"

def SortKey.toJson (s : SortKey) : Json :=
  .object <| [("field", .string s.field), ("order", .string s.order.text)] ++
    Json.optional "mode" (fun mode => .string mode.text) s.mode

/-- The JSON form of a query with its sort keys. -/
def SearchQuery.toJson (s : SearchQuery) : Json :=
  .object (("query", s.query.toJson) :: Json.unlessEmpty "sort" (s.sort.map SortKey.toJson))

namespace Aggregation

mutual

def toJson : Aggregation → Json
  | terms name field size including excluding =>
    .object <| [("type", .string "terms"), ("name", .string name), ("field", .string field)] ++
      Json.optional "size" (fun (n : Nat) => .integer n) size ++
      Json.unlessEmpty "include" (including.map Value.toJson) ++
      Json.unlessEmpty "exclude" (excluding.map Value.toJson)
  | filter name filters aggregations =>
    .object [("type", .string "filter"), ("name", .string name),
      ("filters", .array (Query.listToJson filters)),
      ("aggregations", .array (listToJson aggregations))]

def listToJson : List Aggregation → List Json
  | [] => []
  | a :: rest => a.toJson :: listToJson rest

end

end Aggregation

end CatalogSearch
