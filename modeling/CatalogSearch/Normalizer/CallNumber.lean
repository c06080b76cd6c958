/-!
Call numbers as integers. The first eleven symbols of a call number are read as the digits of a
number in base 43, where the symbols are ordered as in ASCII and a short call number is filled up
with spaces, the least of them. So integers are ordered as those symbols are.
-/

namespace CatalogSearch.CallNumber

/-- The symbols of call numbers, in ascending order. -/
def alphabet : List Char :=
  [' ', '#', '$', '+', '.', '/', '0', '1', '2', '3', '4', '5', '6', '7', '8', '9', ':',
   'A', 'B', 'C', 'D', 'E', 'F', 'G', 'H', 'I', 'J', 'K', 'L', 'M', 'N', 'O', 'P', 'Q', 'R', 'S',
   'T', 'U', 'V', 'W', 'X', 'Y', 'Z']

def width : Nat := 11

def base : Nat := alphabet.length

/-- The symbols of a call number: ASCII letters in upper case, other characters dropped. -/
def symbols (cs : List Char) : List Char :=
  (cs.map Char.toUpper).filter fun c => alphabet.contains c

/-- The symbols that count, filled up with spaces. -/
def padded (cs : List Char) : List Char :=
  (symbols cs).take width ++ List.replicate (width - (symbols cs).length) ' '

def number (symbols : List Char) : Nat :=
  symbols.foldl (fun n c => base * n + alphabet.idxOf c) 0

def encode (s : String) : Nat := number (padded s.toList)

end CatalogSearch.CallNumber
