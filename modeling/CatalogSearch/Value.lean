import CatalogSearch.Json.Basic

/-!
The values that queries hold: texts, and integers of 64 bits.
-/

namespace CatalogSearch

/-- The largest integer that a value may be. -/
def longMax : Int := 0x7FFFFFFFFFFFFFFF

/-- The smallest integer that a value may be. -/
def longMin : Int := -0x8000000000000000

/-- A value of a term or a bound of a range. -/
inductive Value where
  | text (s : String)
  | long (n : Int)
  deriving DecidableEq, Repr

namespace Value

def text? : Value → Option String
  | text s => some s
  | long _ => none

def long? : Value → Option Int
  | text _ => none
  | long n => some n

/-- A value as it is shown, integers in decimal digits. -/
def display : Value → String
  | text s => s
  | long n => String.ofList (Json.integerText n)

def toJson : Value → Json
  | text s => .string s
  | long n => .integer n

end Value

end CatalogSearch
