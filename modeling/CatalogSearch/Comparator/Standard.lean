import CatalogSearch.Comparator.Strategy
import CatalogSearch.Text.Blank

/-!
The strategies of the query language. Word comparators search the words of full-text fields, the
exact ones compare whole values, and the relational ones bound a range.
-/

namespace CatalogSearch.Strategy

/-- The comparator under which values with a wildcard are looked up, whatever comparator stands in
the clause. -/
def wildcardComparator : String := "wildcard"

/-- The name of the modifier that asks for the untokenized form of full-text fields. -/
def stringModifier : String := "string"

/-- A search of full-text fields for the words of a value. -/
def fulltextQuery (fields : List String) (v : Value) (mode : MatchMode) : Query :=
  .fulltext fields v.display mode

/-- A search of a group's fields for the words of a value. -/
def groupQuery (members : List Member) (v : Value) (mode : MatchMode) : Query :=
  fulltextQuery (members.map Member.searchField) v mode

/-- A search of one field for the words of a value. -/
def targetQuery (t : FulltextTarget) (v : Value) (mode : MatchMode) : Query :=
  fulltextQuery [t.searchField] v mode

def anyOf (queries : List Query) : Query := .bool [] queries [] []

/-- A query for what another does not find. -/
def noneOf (q : Query) : Query := .bool [] [] [q] []

/-- The words of a value, each a text; an integer is one word. -/
def valueWords : Value → List Value
  | .text s => (Text.words s.toList).map fun word => .text (String.ofList word)
  | .long n => [.long n]

/-- Terms for the words of a value on one field, joined by `join` if there are several. A value
without words stands for itself. -/
def wordTerms (join : List Query → Query) (v : Value) (field : String) : Query :=
  match valueWords v with
  | [] => .term field v
  | [word] => .term field word
  | several => join (several.map fun word => .term field word)

/-- The comparator `=`: all words of full-text fields, the whole value of others. -/
def equal : Strategy where
  name := "equal"
  comparators := ["="]
  onGroup v members := .ok (groupQuery members v .all)
  onFulltext v t modifiers :=
    if hasModifier modifiers stringModifier then .ok (.term t.literalField v)
    else .ok (targetQuery t v .all)
  onTerm v field := .ok (.term field v)

/-- The comparator `==`: the whole value, of full-text fields in their untokenized form. -/
def exact : Strategy where
  name := "exact"
  comparators := ["=="]
  onGroup v members := .ok (anyOf (members.map fun m => .term m.termField v))
  onFulltext v t _ := .ok (.term t.literalField v)
  onTerm v field := .ok (.term field v)

/-- The comparator `all`: every word. -/
def all : Strategy where
  name := "all"
  comparators := ["all"]
  onGroup v members := .ok (groupQuery members v .all)
  onFulltext v t _ := .ok (targetQuery t v .all)
  onTerm v field := .ok (wordTerms (fun terms => .bool terms [] [] []) v field)

/-- The comparator `any`: at least one word. -/
def any : Strategy where
  name := "any"
  comparators := ["any"]
  onGroup v members := .ok (groupQuery members v .any)
  onFulltext v t _ := .ok (targetQuery t v .any)
  onTerm v field := .ok (wordTerms anyOf v field)

/-- The comparator `adj`: all words, next to each other. -/
def adjacent : Strategy where
  name := "adj"
  comparators := ["adj"]
  onGroup v members := .ok (groupQuery members v .phrase)
  onFulltext v t _ := .ok (targetQuery t v .phrase)
  onTerm v field := .ok (.term field v)

/-- The comparator `<>`: not what all words, or the whole value, would find. -/
def notEqual : Strategy where
  name := "not-equal"
  comparators := ["<>"]
  onGroup v members := .ok (noneOf (groupQuery members v .all))
  onFulltext v t _ := .ok (noneOf (targetQuery t v .all))
  onTerm v field := .ok (noneOf (.term field v))

/-- A relational comparator: a range of a single field. -/
def relational (name comparator : String) (range : String → Value → Range) : Strategy where
  name := name
  comparators := [comparator]
  onGroup _ _ := refuse name "multi-field groups"
  onFulltext v t _ := .ok (.range (range t.path v))
  onTerm v field := .ok (.range (range field v))

def greaterThan : Strategy := relational "greater-than" ">" fun field v => .atLeast field v false

def atLeast : Strategy := relational "at-least" ">=" fun field v => .atLeast field v true

def lessThan : Strategy := relational "less-than" "<" fun field v => .atMost field v false

def atMost : Strategy := relational "at-most" "<=" fun field v => .atMost field v true

/-- Values with a wildcard: whole values that fit the pattern. -/
def wildcard : Strategy where
  name := "wildcard"
  comparators := [wildcardComparator]
  onGroup v members := .ok (anyOf (members.map fun m => .wildcard m.termField v.display))
  onFulltext v t _ := .ok (.wildcard t.literalField v.display)
  onTerm v field := .ok (.wildcard field v.display)

def standard : List Strategy :=
  [equal, exact, all, any, adjacent, notEqual, greaterThan, atLeast, lessThan, atMost, wildcard]

end CatalogSearch.Strategy
