import CatalogSearch.Compiler.Clause
import CatalogSearch.Compiler.Sort
import CatalogSearch.Expression.Text
import CatalogSearch.Query.Combine
import CatalogSearch.Query.Promotion

/-!
The query of an expression. Operands are compiled from left to right and the first error is the
answer. A sort may stand at the root only, proximity and assignments of context sets nowhere.
-/

namespace CatalogSearch.Compiler

/-- The query of a connective for the queries of its operands; proximity has none. -/
def combine? : Connective → Option (Query → Query → Query)
  | .and => some Query.conjunction
  | .or => some Query.disjunction
  | .not => some Query.difference
  | .prox => none

/-- The query of an expression without a sort. -/
def expressionQuery (c : Compiler) (resource : String) : Expression → Except CompileError Query
  | .clause clause => c.clauseQuery resource clause
  | .boolean op left right =>
    match combine? op with
    | none => .error (.unsupported (.connective op.text))
    | some combine => do
      let q ← c.expressionQuery resource left
      let r ← c.expressionQuery resource right
      return combine q r
  | .sorted _ _ => .error (.unsupported .innerSort)
  | .assigned _ uri _ => .error (.unsupported (.assignment uri))

def compile (c : Compiler) (resource : String) (e : Expression) :
    Except CompileError SearchQuery := do
  let (subtree, indexes) := e.splitSort
  let q ← c.expressionQuery resource subtree
  let sort ← c.catalog.resolveSort resource indexes
  return ⟨q.promote c.catalog resource, sort⟩

end CatalogSearch.Compiler
