import CatalogSearch.Text.Blank
import CatalogSearch.Text.Case
import CatalogSearch.Text.Digit

/-!
Shelf keys: texts that sort as call numbers stand on the shelf. A call number of letters and a
number has the number of its digits put before them, so that shorter numbers come first. One that
starts with a number has it filled up to three digits. Any other is only tidied.
-/

namespace CatalogSearch.ShelfKey

/-- A call number taken apart: its class letters, if it has any, the integer and the fraction of
its class number, and what follows. The fraction includes its point. -/
structure Parts where
  letters : List Char
  integer : List Char
  fraction : List Char
  remainder : List Char
  deriving DecidableEq, Repr

/-- Splits a fraction off the front: a point and at least one digit. -/
def splitFraction : List Char → List Char × List Char
  | '.' :: cs =>
    let digits := cs.takeWhile Text.isDigit
    if digits.isEmpty then ([], '.' :: cs) else ('.' :: digits, cs.dropWhile Text.isDigit)
  | cs => ([], cs)

/-- What follows a class number, without the white space before it; there is none with a line
break in it. -/
def remainder? (cs : List Char) : Option (List Char) :=
  let rest := Text.trimStart cs
  if rest.contains '\n' then none else some rest

/-- Takes a call number apart after its class letters, with at most `width` digits before the
fraction, if a width is given. -/
def afterLetters? (letters : List Char) (width : Option Nat) (cs : List Char) : Option Parts := do
  let run := cs.takeWhile Text.isDigit
  let integer := run.take (width.getD run.length)
  if integer.isEmpty then none
  else
    let (fraction, rest) := splitFraction (cs.drop integer.length)
    return ⟨letters, integer, fraction, ← remainder? rest⟩

def isClassLetter (c : Char) : Bool := 'A' ≤ c && c ≤ 'Z'

/-- Takes apart a call number of one to three letters and a number. -/
def lettered? (cs : List Char) : Option Parts :=
  let letters := cs.takeWhile isClassLetter
  if letters.isEmpty || 3 < letters.length then none
  else afterLetters? letters none (Text.trimStart (cs.dropWhile isClassLetter))

/-- Takes apart a call number that starts with a number, of which three digits form the class. -/
def numbered? (cs : List Char) : Option Parts := afterLetters? [] (some 3) cs

/-- The number of bytes that characters take in UTF-8. -/
def byteLength (cs : List Char) : Nat := cs.foldl (fun n c => n + c.utf8Size) 0

/-- The words of a remainder, without points in front of them. -/
def cutters (cs : List Char) : List Char :=
  Text.unwords <| ((Text.words cs).map fun word => word.dropWhile (· == '.')).filter
    fun word => !word.isEmpty

/-- The key of a call number of letters and a number. -/
def Parts.letteredKey (p : Parts) : List Char :=
  Text.trimEnd <| p.letters ++ ' ' :: Nat.toDigits 10 (byteLength p.integer) ++ p.integer ++
    p.fraction ++ ' ' :: cutters p.remainder

/-- The key of a call number that starts with a number. -/
def Parts.numberedKey (p : Parts) : List Char :=
  Text.trimEnd <| List.replicate (3 - p.integer.length) '0' ++ p.integer ++ p.fraction ++
    ' ' :: cutters p.remainder

/-- The key of a text in upper case and without white space around it. -/
def ofTrimmed (cs : List Char) : List Char :=
  match lettered? cs with
  | some p => p.letteredKey
  | none =>
    match numbered? cs with
    | some p => p.numberedKey
    | none => Text.unwords (Text.words cs)

def make (s : String) : String :=
  String.ofList (ofTrimmed (Text.upper (Text.trim s.toList)))

end CatalogSearch.ShelfKey
