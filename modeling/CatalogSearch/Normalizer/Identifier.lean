import CatalogSearch.Text.Blank
import CatalogSearch.Text.Case
import CatalogSearch.Text.Digit

/-!
Numbers that identify books: control numbers of the Library of Congress and of OCLC, and ISBNs. Of
the ways in which people write one number, as many as possible are brought to one.
-/

namespace CatalogSearch.Identifier

/-- A control number of the Library of Congress: without white space, in lower case. -/
def lccn (cs : List Char) : List Char := Text.lower (cs.filter fun c => !Text.isBlank c)

/-- The marks that may stand before an OCLC number. -/
def oclcMarks : List (List Char) :=
  [['(', 'O', 'C', 'o', 'L', 'C', ')'], ['o', 'c', 'm'], ['o', 'c', 'n'], ['o', 'n']]

/-- What follows the first text of a list that stands at the front, or all if none does. -/
def dropMark (marks : List (List Char)) (cs : List Char) : List Char :=
  match marks.find? fun mark => mark.isPrefixOf cs with
  | some mark => cs.drop mark.length
  | none => cs

/-- An OCLC number: without a mark and without zeros in front, except that zero stays. -/
def oclc (cs : List Char) : List Char :=
  let number := Text.trimStart (dropMark oclcMarks (Text.trim cs))
  let stripped := number.dropWhile (· == '0')
  if stripped.isEmpty && !number.isEmpty then ['0'] else stripped

def digitValue (c : Char) : Nat := c.toNat - 48

/-- The sum of digits in which every other one counts three times, the first one once. -/
def weightedSum : List Char → Nat
  | [] => 0
  | [a] => digitValue a
  | a :: b :: rest => digitValue a + 3 * digitValue b + weightedSum rest

/-- The digit that makes a weighted sum divisible by ten. -/
def checkDigit (body : List Char) : Char := Nat.digitChar ((10 - weightedSum body % 10) % 10)

/-- Whether characters form an ISBN of ten: nine digits, and a digit or `X`. -/
def isIsbn10 (cs : List Char) : Bool :=
  cs.length == 10 && (cs.take 9).all Char.isDigit &&
    (cs.drop 9).all fun c => c.isDigit || c = 'X'

/-- The ISBN of thirteen for one of ten. -/
def isbn13 (cs : List Char) : List Char :=
  let body := '9' :: '7' :: '8' :: cs.take 9
  body ++ [checkDigit body]

/-- An ISBN without hyphens and white space, in upper case. -/
def isbnText (cs : List Char) : List Char :=
  Text.upper (cs.filter fun c => c ≠ '-' && !Text.isBlank c)

/-- An ISBN: tidied, and of thirteen digits if it was well-formed with ten. -/
def isbn (cs : List Char) : List Char :=
  if isIsbn10 (isbnText cs) then isbn13 (isbnText cs) else isbnText cs

end CatalogSearch.Identifier
