import CatalogSearch.Text.Case

/-!
Expression trees of the query language: search clauses joined by connectives, under an optional
sort and under assignments of context sets to short names.
-/

namespace CatalogSearch

/-- A modifier such as `/string` or `/locale=en`, of a comparator or of a sort key. -/
structure Modifier where
  name : String
  comparator : Option String
  value : Option String
  deriving DecidableEq, Repr

/-- A search clause: an index compared with a value. -/
structure Clause where
  index : String
  comparator : String
  term : String
  modifiers : List Modifier
  deriving DecidableEq, Repr

/-- The operators that join two expressions. -/
inductive Connective where
  | and
  | or
  | not
  | prox
  deriving DecidableEq, Repr

/-- One key of a sort: an index and its modifiers. -/
structure SortIndex where
  base : String
  modifiers : List Modifier
  deriving DecidableEq, Repr

/-- An expression of the query language. -/
inductive Expression where
  | clause (c : Clause)
  | boolean (op : Connective) (left right : Expression)
  | sorted (subtree : Expression) (indexes : List SortIndex)
  | assigned (name : Option String) (uri : String) (subtree : Expression)
  deriving DecidableEq, Repr

/-- Whether a modifier of the given name is present; ASCII letters match in either case. -/
def hasModifier (modifiers : List Modifier) (name : String) : Bool :=
  modifiers.any fun modifier => Text.eqIgnoreAsciiCase modifier.name name

namespace Expression

/-- Whether the expression is a clause with a modifier of the given name. -/
def hasModifier (e : Expression) (name : String) : Bool :=
  match e with
  | clause c => CatalogSearch.hasModifier c.modifiers name
  | _ => false

/-- The expression under a sort at the root, and the keys of that sort. -/
def splitSort (e : Expression) : Expression × List SortIndex :=
  match e with
  | sorted subtree indexes => (subtree, indexes)
  | _ => (e, [])

end Expression

end CatalogSearch
