import CatalogSearch.DateTime
import CatalogSearch.Text.Digit

/-!
Dates and times of TOML. There are many ways to write a moment, with a blank or a letter between
date and time, with or without seconds, with any number of places after the point; a moment that
was read is written in one of them.
-/

namespace CatalogSearch.Toml

/-- A day of the calendar. -/
structure Day where
  year : Nat
  month : Nat
  day : Nat
  deriving DecidableEq, Repr

/-- A time of day, to the nanosecond. -/
structure Clock where
  hour : Nat
  minute : Nat
  second : Nat
  nanosecond : Nat
  deriving DecidableEq, Repr

/-- The distance from universal time: none at all, or so many minutes east of it. -/
inductive Offset where
  | universal
  | minutes (east : Int)
  deriving DecidableEq, Repr

/-- A date, a time of day, or both with an offset that may be missing. -/
inductive Datetime where
  | date (d : Day)
  | time (t : Clock)
  | moment (d : Day) (t : Clock) (o : Option Offset)
  deriving DecidableEq, Repr

/-! ### Writing -/

def paddedDigits (width n : Nat) : List Char :=
  let digits := Nat.toDigits 10 n
  List.replicate (width - digits.length) '0' ++ digits

def dropEndZeros (cs : List Char) : List Char := (cs.reverse.dropWhile (· == '0')).reverse

def Day.chars (d : Day) : List Char :=
  paddedDigits 4 d.year ++ '-' :: paddedDigits 2 d.month ++ '-' :: paddedDigits 2 d.day

/-- A time of day with seconds, and with as many places after the point as it takes. -/
def Clock.chars (t : Clock) : List Char :=
  paddedDigits 2 t.hour ++ ':' :: paddedDigits 2 t.minute ++ ':' :: paddedDigits 2 t.second ++
    if t.nanosecond = 0 then [] else '.' :: dropEndZeros (paddedDigits 9 t.nanosecond)

/-- An offset; no distance at all is different from none in minutes. -/
def Offset.chars : Offset → List Char
  | universal => ['Z']
  | minutes east =>
    (if east < 0 then '-' else '+') ::
      paddedDigits 2 (east.natAbs / 60) ++ ':' :: paddedDigits 2 (east.natAbs % 60)

def Datetime.text : Datetime → String
  | date d => String.ofList d.chars
  | time t => String.ofList t.chars
  | moment d t o => String.ofList (d.chars ++ 'T' :: t.chars ++ (o.map Offset.chars).getD [])

/-! ### Reading -/

/-- Reads two digits that write a number up to `bound`. -/
def pairUpTo? (bound : Nat) (a b : Char) : Option Nat := do
  let n ← Text.nat? [a, b]
  if n ≤ bound then some n else none

def Day.ofChars? : List Char → Option Day
  | [a, b, c, d, '-', e, f, '-', g, h] => do
    let year ← Text.nat? [a, b, c, d]
    let month ← Text.nat? [e, f]
    let day ← Text.nat? [g, h]
    if Calendar.isDay year month day then some ⟨year, month, day⟩ else none
  | _ => none

/-- The nanoseconds that the places after the point write; what is smaller is cut off. -/
def nanoseconds (places : List Char) : Nat :=
  Text.natOfDigits ((places ++ List.replicate 9 '0').take 9)

/-- Reads the places after a point, if there is one: the nanoseconds and what follows. -/
def readFraction? : List Char → Option (Nat × List Char)
  | '.' :: cs =>
    let places := cs.takeWhile Char.isDigit
    if places.isEmpty then none else some (nanoseconds places, cs.dropWhile Char.isDigit)
  | cs => some (0, cs)

/-- Reads a time of day, in which the seconds may be missing: the time and what follows. -/
def Clock.read? : List Char → Option (Clock × List Char)
  | a :: b :: ':' :: c :: d :: ':' :: e :: f :: rest => do
    let hour ← pairUpTo? 23 a b
    let minute ← pairUpTo? 59 c d
    let second ← pairUpTo? 60 e f
    let (nanosecond, rest) ← readFraction? rest
    return (⟨hour, minute, second, nanosecond⟩, rest)
  | a :: b :: ':' :: c :: d :: rest => do
    return (⟨← pairUpTo? 23 a b, ← pairUpTo? 59 c d, 0, 0⟩, rest)
  | _ => none

def Offset.ofChars? : List Char → Option Offset
  | ['Z'] => some .universal
  | ['z'] => some .universal
  | [sign, a, b, ':', c, d] => do
    let hours ← pairUpTo? 23 a b
    let rest ← pairUpTo? 59 c d
    if sign = '+' then return .minutes (60 * hours + rest)
    else if sign = '-' then return .minutes (-(60 * hours + rest))
    else none
  | _ => none

/-- Reads what follows a date: a time of day, and an offset or nothing. -/
def readMoment? (d : Day) (cs : List Char) : Option Datetime := do
  let (t, rest) ← Clock.read? cs
  if rest.isEmpty then return .moment d t none
  else return .moment d t (some (← Offset.ofChars? rest))

def Datetime.ofChars? (cs : List Char) : Option Datetime :=
  match Day.ofChars? (cs.take 10), cs.drop 10 with
  | some d, [] => some (.date d)
  | some d, mark :: rest =>
    if mark = 'T' ∨ mark = 't' ∨ mark = ' ' then readMoment? d rest else none
  | none, _ =>
    match Clock.read? cs with
    | some (t, []) => some (.time t)
    | _ => none

end CatalogSearch.Toml
