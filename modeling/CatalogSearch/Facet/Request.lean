import CatalogSearch.Error
import CatalogSearch.Text.CodePoint
import CatalogSearch.Text.Digit

/-!
Facet requests: the name of a facet, and after a colon how many values are wanted of it. The pattern
of requests is looked at first, and what it has after the colon is then read as a count. The pattern
takes digits that no count has, and counts can be written in ways that the pattern does not take.
-/

namespace CatalogSearch

/-- A facet that is asked for, with at most `size` values if a size is given. -/
structure FacetRequest where
  name : String
  size : Option Nat
  deriving DecidableEq, Repr

namespace FacetRequest

def isNameChar (c : Char) : Bool := c.isAlpha || c = '.'

/-- A request taken apart: its name, and what is written after the colon, if there is one. -/
structure Parts where
  name : List Char
  limit : Option (List Char)
  deriving DecidableEq, Repr

/-- What the pattern of requests has after a name: nothing, or a colon and one to ten decimal digits
of any script. -/
def limit? : List Char → Option (Option (List Char))
  | [] => some none
  | ':' :: digits =>
    if !digits.isEmpty && digits.length ≤ 10 && digits.all Text.isDigit then some (some digits)
    else none
  | _ => none

/-- Takes a whole text apart by the pattern of requests. -/
def parts? (facet : String) : Option Parts :=
  let name := facet.toList.takeWhile isNameChar
  if name.isEmpty then none
  else (limit? (facet.toList.dropWhile isNameChar)).map fun limit => ⟨name, limit⟩

/-- The request that parts stand for, if what is written after the colon reads as a count. -/
def Parts.request? (p : Parts) : Option FacetRequest :=
  match p.limit with
  | none => some ⟨String.ofList p.name, none⟩
  | some digits => (Text.count? digits).map fun size => ⟨String.ofList p.name, some size⟩

def parse (facet : String) : Except CompileError FacetRequest :=
  match (parts? facet).bind Parts.request? with
  | some r => .ok r
  | none => .error (.invalidFacetFormat facet)

end FacetRequest

end CatalogSearch
