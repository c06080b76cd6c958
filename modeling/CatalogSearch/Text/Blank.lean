import CatalogSearch.Text.CodePoint

/-!
Texts between white space: a text without the white space around it, and the words of a text.
-/

namespace CatalogSearch.Text

def trimStart (cs : List Char) : List Char := cs.dropWhile isBlank

def trimEnd (cs : List Char) : List Char := (cs.reverse.dropWhile isBlank).reverse

def trim (cs : List Char) : List Char := trimEnd (trimStart cs)

/-- The pieces between single white space characters, empty ones included. -/
def blankSeparated : List Char → List (List Char)
  | [] => [[]]
  | c :: cs =>
    if isBlank c then [] :: blankSeparated cs
    else match blankSeparated cs with
      | [] => [[c]]
      | word :: rest => (c :: word) :: rest

/-- The longest runs without white space, in order. -/
def words (cs : List Char) : List (List Char) :=
  (blankSeparated cs).filter fun word => !word.isEmpty

def unwords (ws : List (List Char)) : List Char := (ws.intersperse [' ']).flatten

end CatalogSearch.Text
