import CatalogSearch.Toml.Datetime

/-!
TOML values. A document is a table; where a table could be defined piecemeal in the text, only the
outcome is kept.
-/

namespace CatalogSearch.Toml

/-- A TOML value. Of a float only its being one matters to this library. -/
inductive Value where
  | string (s : String)
  | integer (n : Int)
  | float
  | boolean (b : Bool)
  | datetime (d : Datetime)
  | array (items : List Value)
  | table (entries : List (String × Value))

namespace Value

/-- The name of the only member of a date-time that is read as a table. -/
def datetimeMember : String := "$__toml_private_datetime"

/-- The entries of a table. A date-time counts as a table that holds its text. -/
def entries? : Value → Option (List (String × Value))
  | table entries => some entries
  | datetime d => some [(datetimeMember, string d.text)]
  | _ => none

/-- The fields of a record with the given names: a table, in which other keys are passed over, or
an array with the fields in order. -/
def record? (names : List String) : Value → Option (List (String × Value))
  | array items => some (names.zip items)
  | v => v.entries?

def string? : Value → Option String
  | string s => some s
  | _ => none

def boolean? : Value → Option Bool
  | boolean b => some b
  | _ => none

/-- An integer that fits 64 bits without a sign. -/
def unsigned64? : Value → Option Nat
  | integer n => if 0 ≤ n ∧ n < 0x10000000000000000 then some n.toNat else none
  | _ => none

def items? : Value → Option (List Value)
  | array items => some items
  | _ => none

/-- The text of a string, or the only key of a table that holds nothing under it. -/
def word? : Value → Option String
  | string s => some s
  | table [(key, table [])] => some key
  | table [(key, array [])] => some key
  | _ => none

end Value

end CatalogSearch.Toml
