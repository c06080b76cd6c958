/-!
JSON values and their two written forms: a compact one on a single line and an indented one for
people. Members of an object keep their order, since the order of a record's members is part of
what is printed.
-/

namespace CatalogSearch

/-- The number `mantissa * 10 ^ exponent`. -/
structure Decimal where
  mantissa : Int
  exponent : Int
  deriving DecidableEq, Repr

namespace Decimal

/-- Moves the zeros at the end of a nonzero mantissa into the exponent. -/
def stripZeros : Nat → Decimal → Decimal
  | 0, d => d
  | fuel + 1, d =>
    if d.mantissa ≠ 0 ∧ d.mantissa % 10 = 0 then
      stripZeros fuel ⟨d.mantissa / 10, d.exponent + 1⟩
    else d

/-- The one form of a number in which the mantissa does not end in a zero. -/
def normal (d : Decimal) : Decimal :=
  if d.mantissa = 0 then ⟨0, 0⟩ else stripZeros d.mantissa.natAbs.log2 d

/-- Positional notation with a point and at least one digit on either side of it. -/
def positional (d : Decimal) : List Char :=
  let sign := if d.mantissa < 0 then ['-'] else []
  if 0 ≤ d.exponent then
    sign ++ Nat.toDigits 10 (d.mantissa.natAbs * Nat.pow 10 d.exponent.toNat) ++ ['.', '0']
  else
    let places := (-d.exponent).toNat
    let digits := Nat.toDigits 10 d.mantissa.natAbs
    let padded := List.replicate (places + 1 - digits.length) '0' ++ digits
    sign ++ padded.take (padded.length - places) ++ '.' :: padded.drop (padded.length - places)

end Decimal

/-- A JSON value. -/
inductive Json where
  | null
  | bool (b : Bool)
  | integer (n : Int)
  | decimal (d : Decimal)
  | string (s : String)
  | array (items : List Json)
  | object (members : List (String × Json))

namespace Json

/-- One character inside a JSON string: quotes, backslashes and control characters are escaped. -/
def escapeChar (c : Char) : List Char :=
  match c with
  | '"' => ['\\', '"']
  | '\\' => ['\\', '\\']
  | '\n' => ['\\', 'n']
  | '\r' => ['\\', 'r']
  | '\t' => ['\\', 't']
  | '\x08' => ['\\', 'b']
  | '\x0c' => ['\\', 'f']
  | _ =>
    if c.toNat < 0x20 then
      ['\\', 'u', '0', '0', Nat.digitChar (c.toNat / 16), Nat.digitChar (c.toNat % 16)]
    else [c]

def quoted (s : String) : List Char := '"' :: s.toList.flatMap escapeChar ++ ['"']

/-- The digits of an integer, after a minus sign if it is negative. -/
def integerText (n : Int) : List Char :=
  if n < 0 then '-' :: Nat.toDigits 10 n.natAbs else Nat.toDigits 10 n.natAbs

def scalarText : Json → List Char
  | .null => ['n', 'u', 'l', 'l']
  | .bool true => ['t', 'r', 'u', 'e']
  | .bool false => ['f', 'a', 'l', 's', 'e']
  | .integer n => integerText n
  | .decimal d => d.positional
  | .string s => quoted s
  | .array _ => []
  | .object _ => []

mutual

/-- The text of a value on one line, without any white space outside strings. -/
def compact : Json → List Char
  | .array items => '[' :: compactItems items ++ [']']
  | .object members => '\x7b' :: compactMembers members ++ ['\x7d']
  | scalar => scalarText scalar

def compactItems : List Json → List Char
  | [] => []
  | [item] => compact item
  | item :: rest => compact item ++ ',' :: compactItems rest

def compactMembers : List (String × Json) → List Char
  | [] => []
  | [(key, value)] => quoted key ++ ':' :: compact value
  | (key, value) :: rest => quoted key ++ ':' :: compact value ++ ',' :: compactMembers rest

end

/-- A line break followed by two spaces per level. -/
def newline (level : Nat) : List Char := '\n' :: List.replicate (2 * level) ' '

mutual

/-- The text of a value with one item or member a line, indented by two spaces per level. -/
def indented (level : Nat) : Json → List Char
  | .array [] => ['[', ']']
  | .array items => '[' :: indentedItems (level + 1) items ++ newline level ++ [']']
  | .object [] => ['\x7b', '\x7d']
  | .object members =>
    '\x7b' :: indentedMembers (level + 1) members ++ newline level ++ ['\x7d']
  | scalar => scalarText scalar

/-- The items of an array, each on a line of its own. -/
def indentedItems (level : Nat) : List Json → List Char
  | [] => []
  | [item] => newline level ++ indented level item
  | item :: rest => newline level ++ indented level item ++ ',' :: indentedItems level rest

/-- The members of an object, each on a line of its own. -/
def indentedMembers (level : Nat) : List (String × Json) → List Char
  | [] => []
  | [(key, value)] => newline level ++ quoted key ++ ':' :: ' ' :: indented level value
  | (key, value) :: rest =>
    newline level ++ quoted key ++ ':' :: ' ' :: indented level value ++
      ',' :: indentedMembers level rest

end

def render (v : Json) : String := String.ofList (compact v)

def pretty (v : Json) : String := String.ofList (indented 0 v)

/-- A member that is left out when its value is absent. -/
def optional {α : Type} (key : String) (write : α → Json) : Option α → List (String × Json)
  | none => []
  | some a => [(key, write a)]

/-- A list member that is left out when it has no items. -/
def unlessEmpty (key : String) : List Json → List (String × Json)
  | [] => []
  | items => [(key, .array items)]

end Json

end CatalogSearch
