import CatalogSearch.Error
import CatalogSearch.NameTable
import CatalogSearch.Normalizer.CallNumber
import CatalogSearch.Normalizer.Identifier
import CatalogSearch.Normalizer.ShelfKey

/-!
The registry of normalizers: functions under names that bring search values to the form in which
the index holds them. A name is given once and keeps its function.
-/

namespace CatalogSearch

/-- Functions on search values, under names. -/
structure NormalizerRegistry where
  functions : NameTable (String → Value)

namespace NormalizerRegistry

def empty : NormalizerRegistry := ⟨.empty⟩

def contains (r : NormalizerRegistry) (name : String) : Bool := r.functions.contains name

/-- Gives a function a name that is not taken. -/
def register (r : NormalizerRegistry) (name : String) (f : String → Value) :
    Except RegistryError NormalizerRegistry :=
  if r.contains name then .error (.duplicateNormalizer name)
  else .ok ⟨r.functions.insert name f⟩

/-- Runs the function of a name, if it is taken. -/
def normalize? (r : NormalizerRegistry) (name value : String) : Option Value :=
  (r.functions.get? name).map fun f => f value

def names (r : NormalizerRegistry) : List String := r.functions.names

/-- A function on characters as one from texts to text values. -/
def onText (f : List Char → List Char) (value : String) : Value :=
  .text (String.ofList (f value.toList))

def builtIn : List (String × (String → Value)) :=
  [("call-number", fun v => .long (CallNumber.encode v)),
   ("shelf-key", fun v => .text (ShelfKey.make v)),
   ("lccn", onText Identifier.lccn),
   ("oclc", onText Identifier.oclc),
   ("isbn", onText Identifier.isbn),
   ("lowercase", onText Text.lower)]

def standard : NormalizerRegistry := ⟨.ofList builtIn⟩

end NormalizerRegistry

end CatalogSearch
