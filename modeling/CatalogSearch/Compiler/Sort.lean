import CatalogSearch.Catalog.Basic
import CatalogSearch.Error
import CatalogSearch.Expression.Basic
import CatalogSearch.FieldName

/-!
The fields of the index that the keys of a sort stand for. A key names a field that can be sorted
by, or the path of which such a field is the sort form. Where documents have several values, the
least counts in ascending order and the greatest in descending order.
-/

namespace CatalogSearch

def SortOrder.collectionMode : SortOrder → SortMode
  | ascending => .min
  | descending => .max

namespace SortIndex

/-- The order that a modifier asks for; its case does not matter. -/
def orderOf? (m : Modifier) : Option SortOrder :=
  let name := Text.lowerString m.name
  if name = "sort.ascending" then some .ascending
  else if name = "sort.descending" then some .descending
  else none

/-- The order that modifiers ask for, of which the last one counts. -/
def orderOf (order : SortOrder) : List Modifier → Except CompileError SortOrder
  | [] => .ok order
  | m :: rest =>
    match orderOf? m with
    | some order => orderOf order rest
    | none => .error (.unsupported (.sortModifier m.name))

/-- The field that a name stands for in a sort. -/
def sortField? (k : Catalog) (resource name : String) : Option Field :=
  k.fieldWith? resource name .sort <|> k.fieldWith? resource (FieldName.sort name) .sort

def keysOf (f : Field) (order : SortOrder) : List SortKey :=
  match f.sort with
  | none => [⟨FieldName.sort f.path, order, none⟩]
  | some settings =>
    let primary := settings.field.getD (FieldName.sort f.path)
    match settings.layout with
    | .single => [⟨primary, order, none⟩]
    | .collection =>
      (primary :: settings.secondary).map fun field => ⟨field, order, some order.collectionMode⟩

def resolve (k : Catalog) (resource : String) (index : SortIndex) :
    Except CompileError (List SortKey) :=
  let name := k.resolveAlias resource index.base
  match sortField? k resource name with
  | none => .error (.invalidSortField name resource)
  | some f => do return keysOf f (← orderOf .ascending index.modifiers)

end SortIndex

/-- The sort keys of the keys of a sort, in order. -/
def Catalog.resolveSort (k : Catalog) (resource : String) (indexes : List SortIndex) :
    Except CompileError (List SortKey) := do
  return (← indexes.mapM (SortIndex.resolve k resource)).flatten

end CatalogSearch
