import CatalogSearch.Text.Digit
import CatalogSearch.Json.Basic

/-!
Reading the numbers of JSON text. A number that is no integer has to lie within the range of
double-precision numbers, and it is put there in two roundings: its digits are gathered in 64 bits,
those that do not fit are left out, the outcome is rounded to a double, and the product with a power
of ten, a double too, must not be too large. Next to the end of the range this refuses some numbers
that lie within it.
-/

namespace CatalogSearch.Json

def isNumberChar (c : Char) : Bool :=
  c.isDigit || c = '-' || c = '+' || c = '.' || c = 'e' || c = 'E'

/-- Whether digits are the integer part of a number: not empty, and no zero before others. -/
def isIntegerPart : List Char → Bool
  | ['0'] => true
  | c :: cs => c ≠ '0' && (c :: cs).all Char.isDigit
  | [] => false

/-- Reads the exponent part of a number, which may be missing. -/
def exponent? : List Char → Option Int
  | [] => some 0
  | e :: cs => if e = 'e' ∨ e = 'E' then Text.int? cs else none

/-! ### The range of doubles -/

/-- The nearest number of 53 significant bits; of two that are as near, the one with an even last
bit. -/
def nearestDouble (n : Nat) : Nat :=
  let unit := Nat.pow 2 (n.log2 - 52)
  let quotient := n / unit
  let remainder := n % unit
  if 2 * remainder < unit ∨ 2 * remainder = unit ∧ quotient % 2 = 0 then quotient * unit
  else (quotient + 1) * unit

/-- The least number that is too large to be rounded to a double. -/
def doubleBound : Nat := Nat.pow 2 1024 - Nat.pow 2 970

/-- Whether a number is too large for a double. -/
def exceedsDouble (d : Decimal) : Bool :=
  let size := (Nat.toDigits 10 d.mantissa.natAbs).length + d.exponent
  if d.mantissa = 0 || size < 300 then false
  else if 320 < size then true
  else if 0 ≤ d.exponent then doubleBound ≤ d.mantissa.natAbs * Nat.pow 10 d.exponent.toNat
  else doubleBound * Nat.pow 10 (-d.exponent).toNat ≤ d.mantissa.natAbs

/-- Appends digits to a number as long as it fits 64 bits: the number, and how many digits were
appended. -/
def gather : Nat → List Char → Nat × Nat
  | n, [] => (n, 0)
  | n, c :: cs =>
    let next := 10 * n + (c.toNat - 48)
    if next < 0x10000000000000000 then
      let (n, count) := gather next cs
      (n, count + 1)
    else (n, 0)

/-- What 64 bits hold of the digits before and after the point, as a number and its power of ten. -/
def gathered (whole fraction : List Char) : Nat × Int :=
  let (n, count) := gather 0 whole
  let (n, places) := gather n fraction
  (n, (whole.length : Int) - count - places)

/-- Whether a number with these digits before and after the point and this exponent leaves the range
of doubles. -/
def isTooLarge (whole fraction : List Char) (exponent : Int) : Bool :=
  let (n, shift) := gathered whole fraction
  let power := shift + exponent
  if n = 0 || power < 0 then false
  else if 308 < power then true
  else doubleBound ≤ nearestDouble n * nearestDouble (Nat.pow 10 power.toNat)

/-! ### Reading -/

/-- Reads the text of a number: an integer if it has neither fraction nor exponent and is not the
negative zero, which integers do not have. -/
def number? (cs : List Char) : Option Json :=
  let (sign, unsigned) : Int × List Char :=
    match cs with
    | '-' :: rest => (-1, rest)
    | _ => (1, cs)
  let whole := unsigned.takeWhile Char.isDigit
  let afterWhole := unsigned.dropWhile Char.isDigit
  if !isIntegerPart whole then none
  else match afterWhole with
    | [] =>
      let n := sign * Text.natOfDigits whole
      if isTooLarge whole [] 0 then none
      else if sign < 0 ∧ n = 0 then some (.decimal ⟨0, 0⟩)
      else some (.integer n)
    | '.' :: afterPoint =>
      let fraction := afterPoint.takeWhile Char.isDigit
      if fraction.isEmpty then none
      else do
        let exponent ← exponent? (afterPoint.dropWhile Char.isDigit)
        if isTooLarge whole fraction exponent then none
        else
          let mantissa := sign * Text.natOfDigits (whole ++ fraction)
          return .decimal ⟨mantissa, exponent - fraction.length⟩
    | _ => do
      let exponent ← exponent? afterWhole
      if isTooLarge whole [] exponent then none
      else return .decimal ⟨sign * Text.natOfDigits whole, exponent⟩

end CatalogSearch.Json
