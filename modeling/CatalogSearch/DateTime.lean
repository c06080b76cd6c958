import CatalogSearch.Text.Blank
import CatalogSearch.Text.Digit

/-!
Dates and date-times as values of date fields. Three notations are accepted: a date, a date-time
with an offset from universal time, and a date-time without one. In the first and the last, numbers
may be short of digits and may have white space before them; the one in the middle is strict. Days
are those of the Gregorian calendar, continued in both directions.
-/

namespace CatalogSearch.Calendar

def isLeapYear (year : Int) : Bool :=
  year % 4 == 0 && (year % 100 != 0 || year % 400 == 0)

/-- The number of days of a month, from 1 to 12. -/
def daysInMonth (year : Int) (month : Nat) : Nat :=
  if month = 2 then if isLeapYear year then 29 else 28
  else if month = 4 ∨ month = 6 ∨ month = 9 ∨ month = 11 then 30
  else 31

def isDay (year : Int) (month day : Nat) : Bool :=
  1 ≤ month && month ≤ 12 && 1 ≤ day && day ≤ daysInMonth year month

end CatalogSearch.Calendar

namespace CatalogSearch.DateTime

/-- A reader of a part of a text: what it read and what follows. -/
abbrev Reader (α : Type) := List Char → Option (α × List Char)

/-- Reads at least `least` and at most `most` ASCII digits as a number. -/
def digits (least most : Nat) : Reader Nat := fun cs =>
  let run := (cs.takeWhile Char.isDigit).take most
  if run.length < least then none else some (Text.natOfDigits run, cs.drop run.length)

def mark (c : Char) : Reader Unit
  | d :: cs => if c = d then some ((), cs) else none
  | [] => none

/-- Reads a number of one or two digits up to a bound, after white space. -/
def short (bound : Nat) : Reader Nat := fun cs => do
  let (n, rest) ← digits 1 2 (Text.trimStart cs)
  if n ≤ bound then some (n, rest) else none

/-- Reads a number of two digits up to a bound. -/
def pair (bound : Nat) : Reader Nat := fun cs => do
  let (n, rest) ← digits 2 2 cs
  if n ≤ bound then some (n, rest) else none

/-- Reads a year after white space: up to four digits, or any number of them after a sign. -/
def year : Reader Int := fun cs =>
  match Text.trimStart cs with
  | '-' :: rest => do
    let (n, rest) ← digits 1 rest.length rest
    return (-n, rest)
  | '+' :: rest => do
    let (n, rest) ← digits 1 rest.length rest
    return (n, rest)
  | rest => do
    let (n, rest) ← digits 1 4 rest
    return (n, rest)

/-- The first and the last year. -/
def yearBounds : Int × Int := (-262143, 262142)

/-- Reads a date whose numbers may be short. -/
def looseDate : Reader Unit := fun cs => do
  let (y, cs) ← year cs
  let (_, cs) ← mark '-' cs
  let (m, cs) ← short 12 cs
  let (_, cs) ← mark '-' cs
  let (d, cs) ← short 31 cs
  if yearBounds.1 ≤ y ∧ y ≤ yearBounds.2 ∧ Calendar.isDay y m d then some ((), cs) else none

/-- Reads a fraction of a second, which may be missing. -/
def fraction : Reader Unit
  | '.' :: cs => do
    let (_, cs) ← digits 1 cs.length cs
    return ((), cs)
  | cs => some ((), cs)

/-- Reads a time of day whose numbers may be short, with or without seconds. -/
def looseTime (seconds : Bool) : Reader Unit := fun cs => do
  let (_, cs) ← short 23 cs
  let (_, cs) ← mark ':' cs
  let (_, cs) ← short 59 cs
  if seconds then
    let (_, cs) ← mark ':' cs
    let (_, cs) ← short 60 cs
    fraction cs
  else some ((), cs)

/-- Reads a date of four, two and two digits. -/
def strictDate : Reader Unit := fun cs => do
  let (y, cs) ← digits 4 4 cs
  let (_, cs) ← mark '-' cs
  let (m, cs) ← pair 12 cs
  let (_, cs) ← mark '-' cs
  let (d, cs) ← pair 31 cs
  if Calendar.isDay y m d then some ((), cs) else none

def separator : Reader Unit
  | c :: cs => if c = 'T' ∨ c = 't' ∨ c = ' ' then some ((), cs) else none
  | [] => none

def strictTime : Reader Unit := fun cs => do
  let (_, cs) ← pair 23 cs
  let (_, cs) ← mark ':' cs
  let (_, cs) ← pair 59 cs
  let (_, cs) ← mark ':' cs
  let (_, cs) ← pair 60 cs
  fraction cs

/-- Reads an offset from universal time. The minus sign may be the typographic one. -/
def offset : Reader Unit
  | c :: cs =>
    if c = 'Z' ∨ c = 'z' then some ((), cs)
    else if c = '+' ∨ c = '-' ∨ c = '\u2212' then do
      let (_, cs) ← pair 23 cs
      let (_, cs) ← mark ':' cs
      let (_, cs) ← pair 59 cs
      return ((), cs)
    else none
  | [] => none

def readsAll (reader : Reader Unit) (cs : List Char) : Bool :=
  match reader cs with
  | some ((), []) => true
  | _ => false

/-- A date-time with an offset. -/
def offsetDateTime : Reader Unit := fun cs => do
  let (_, cs) ← strictDate cs
  let (_, cs) ← separator cs
  let (_, cs) ← strictTime cs
  offset cs

/-- A date-time without an offset. -/
def localDateTime (seconds : Bool) : Reader Unit := fun cs => do
  let (_, cs) ← looseDate cs
  let (_, cs) ← mark 'T' cs
  looseTime seconds cs

/-- Whether a text is a date or a date-time. -/
def isValid (s : String) : Bool :=
  readsAll looseDate s.toList || readsAll offsetDateTime s.toList ||
    readsAll (localDateTime true) s.toList || readsAll (localDateTime false) s.toList

end CatalogSearch.DateTime
