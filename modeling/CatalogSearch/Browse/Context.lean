import CatalogSearch.Query.Json

/-!
Browse contexts: one page of records around an anchor in the order of a field. A context has a range
of records before the anchor, a range of records from it on, or both, and each range has its share
of the page.
-/

namespace CatalogSearch

/-- The ranges of a page, the filters on its records, the value it is anchored at, and how many
records each range may give. -/
structure BrowseContext where
  preceding : Option Range
  succeeding : Option Range
  filters : List Query
  anchor : Value
  precedingLimit : Option Nat
  succeedingLimit : Option Nat
  deriving DecidableEq, Repr

namespace BrowseContext

/-- Whether the page has records on both sides of the anchor. -/
def isAround (b : BrowseContext) : Bool := b.preceding.isSome && b.succeeding.isSome

def range? (b : BrowseContext) (forward : Bool) : Option Range :=
  if forward then b.succeeding else b.preceding

def limit? (b : BrowseContext) (forward : Bool) : Option Nat :=
  if forward then b.succeedingLimit else b.precedingLimit

/-- Whether the range in a direction includes its bound at the anchor. -/
def includesAnchor (b : BrowseContext) (forward : Bool) : Bool :=
  match b.range? forward with
  | some r => if forward then r.includeLower else r.includeUpper
  | none => false

/-- The integer of 64 bits that is closest to an integer. -/
def clampLong (n : Int) : Int := max longMin (min longMax n)

/-- The context with its ranges ending at a distance from an integer anchor. The lower end is not
negative. -/
def withRangeOffset (b : BrowseContext) (offset : Nat) : BrowseContext :=
  match b.anchor with
  | .text _ => b
  | .long anchor =>
    let distance := min (offset : Int) longMax
    { b with
      preceding := b.preceding.map fun r =>
        { r with lower := some (.long (max (clampLong (anchor - distance)) 0)) }
      succeeding := b.succeeding.map fun r =>
        { r with upper := some (.long (clampLong (anchor + distance))) } }

def toJson (b : BrowseContext) : Json :=
  .object <| Json.optional "preceding" Range.toJson b.preceding ++
    Json.optional "succeeding" Range.toJson b.succeeding ++
    [("filters", .array (Query.listToJson b.filters)), ("anchor", b.anchor.toJson)] ++
    Json.optional "preceding_limit" (fun (n : Nat) => .integer n) b.precedingLimit ++
    Json.optional "succeeding_limit" (fun (n : Nat) => .integer n) b.succeedingLimit

end BrowseContext

end CatalogSearch
