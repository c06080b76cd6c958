import CatalogSearch.Query.Basic

/-!
Why an expression cannot be compiled, and why the tables that the compiler works with cannot be set
up. An error holds its cause; the wording is in one place.
-/

namespace CatalogSearch

/-- Why a query is not one that can be browsed. -/
inductive BrowseFault where
  | sorted
  | notARange (field : String)
  | negated
  | besideRange
  | notOneRange
  | notOneBound
  | besideRanges
  | notTwoRanges
  | anchorsDiffer
  | sameDirection
  | noAnchor
  | precedingExceedsLimit (preceding limit : Nat)
  | otherField (field target : String)
  | anchorNotNumeric (anchor : Value)
  deriving DecidableEq, Repr

def BrowseFault.reason : BrowseFault → String
  | sorted => "sortBy is not allowed in a browse query"
  | notARange field => "expected a range query on '" ++ field ++ "'"
  | negated => "negated clauses are not allowed in a browse query"
  | besideRange => "unexpected clauses next to the browse range"
  | notOneRange => "expected exactly one browse range"
  | notOneBound => "range must be bounded on exactly one side"
  | besideRanges => "unexpected clauses next to the browse ranges"
  | notTwoRanges => "browsing around requires exactly two ranges"
  | anchorsDiffer => "anchors must match"
  | sameDirection => "browsing around requires one preceding and one succeeding range"
  | noAnchor => "browse range has no anchor"
  | precedingExceedsLimit preceding limit =>
    "preceding records count " ++ toString preceding ++ " exceeds limit " ++ toString limit
  | otherField field target =>
    "range on '" ++ field ++ "' does not match browse field '" ++ target ++ "'"
  | anchorNotNumeric anchor => "call-number anchor '" ++ anchor.display ++ "' is not numeric"

/-- A part of an expression that has no meaning as a query. -/
inductive Unsupported where
  | connective (op : String)
  | innerSort
  | assignment (uri : String)
  | comparator (token : String)
  | wildcard (valueType path : String)
  | target (strategy kind : String)
  | sortModifier (name : String)
  | normalizer (name : String)
  deriving DecidableEq, Repr

def Unsupported.feature : Unsupported → String
  | connective op => "boolean operator '" ++ op ++ "'"
  | innerSort => "sortBy clause below the root of the query"
  | assignment uri => "prefix assignment '" ++ uri ++ "'"
  | comparator token => "comparator '" ++ token ++ "'"
  | wildcard valueType path => "wildcard on " ++ valueType ++ " field '" ++ path ++ "'"
  | target strategy kind =>
    "comparator strategy '" ++ strategy ++ "' does not support " ++ kind
  | sortModifier name => "sort modifier '" ++ name ++ "'"
  | normalizer name => "normalizer '" ++ name ++ "'"

/-- Why an expression cannot be compiled. -/
inductive CompileError where
  | invalidField (field resource : String)
  | invalidSortField (field resource : String)
  | invalidFacetFormat (facet : String)
  | invalidFacetField (field resource : String)
  | invalidBrowseQuery (fault : BrowseFault) (query : String)
  | unsupported (feature : Unsupported)
  | invalidValue (field value reason : String)
  deriving DecidableEq, Repr

def CompileError.message : CompileError → String
  | invalidField field resource =>
    "invalid search field '" ++ field ++ "' for resource '" ++ resource ++ "'"
  | invalidSortField field resource =>
    "invalid sort field '" ++ field ++ "' for resource '" ++ resource ++ "'"
  | invalidFacetFormat facet => "invalid facet '" ++ facet ++ "': expected name[:limit]"
  | invalidFacetField field resource =>
    "invalid facet field '" ++ field ++ "' for resource '" ++ resource ++ "'"
  | invalidBrowseQuery fault query =>
    "invalid browse query '" ++ query ++ "': " ++ fault.reason
  | unsupported feature => "unsupported feature: " ++ feature.feature
  | invalidValue field value reason =>
    "invalid value '" ++ value ++ "' for field '" ++ field ++ "': " ++ reason

/-- Why a table of the compiler cannot be set up. -/
inductive RegistryError where
  | duplicateComparator (comparator first second : String)
  | duplicateNormalizer (name : String)
  | unknownNormalizer (resource field normalizer : String)
  deriving DecidableEq, Repr

def RegistryError.message : RegistryError → String
  | duplicateComparator comparator first second =>
    "comparator '" ++ comparator ++ "' is claimed by both '" ++ first ++ "' and '" ++ second ++ "'"
  | duplicateNormalizer name => "normalizer '" ++ name ++ "' is registered more than once"
  | unknownNormalizer resource field normalizer =>
    "field '" ++ field ++ "' of resource '" ++ resource ++ "' uses unknown normalizer '" ++
      normalizer ++ "'"

end CatalogSearch
