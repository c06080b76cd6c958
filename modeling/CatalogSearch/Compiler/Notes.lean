import CatalogSearch.Compiler.Expression
import CatalogSearch.Facet.Aggregation

/-!
What the compiler says about its work to those who want to know, in the order in which the work is
done and up to the first error.
-/

namespace CatalogSearch

/-- Note on two ranges of which neither has the end that the other lacks. -/
def Range.collapseNote (r s : Range) : List String :=
  if r.collapsesAmbiguously s then
    ["ambiguous range collapse on '" ++ (r.lowerFirst s).1.field ++
      "': both operands bound the same side"]
  else []

def Query.conjunctionNote : Query → Query → List String
  | .range r, .range s => if r.field = s.field then r.collapseNote s else []
  | _, _ => []

namespace Compiler

/-- Notes on the query of an expression without a sort. -/
def expressionNotes (c : Compiler) (resource : String) : Expression → List String
  | .boolean .prox _ _ => []
  | .boolean op left right =>
    c.expressionNotes resource left ++
      match c.expressionQuery resource left with
      | .error _ => []
      | .ok q => c.expressionNotes resource right ++
        match c.expressionQuery resource right with
        | .error _ => []
        | .ok r => if op = .and then q.conjunctionNote r else []
  | _ => []

def compileNotes (c : Compiler) (resource : String) (e : Expression) : List String :=
  ("compiling '" ++ e.text ++ "' for " ++ resource) ::
    c.expressionNotes resource e.splitSort.1 ++
    match c.compile resource e with
    | .ok s => ["compiled query for " ++ resource ++ " with " ++ toString s.sort.length ++
        " sort key(s)"]
    | .error _ => []

end Compiler

def FacetRequest.scopeNote (r : FacetRequest) (s : FacetScope) : String :=
  "facet '" ++ r.name ++ "': " ++ toString s.selected.length ++ " selected value(s), " ++
    toString s.remaining.length ++ " remaining filter(s)"

def Catalog.facetNotes (k : Catalog) (resource : String) (q : Query) : List String → List String
  | [] => []
  | facet :: rest =>
    match FacetRequest.parse facet with
    | .error _ => []
    | .ok r =>
      match r.field k resource with
      | .error _ => []
      | .ok field => r.scopeNote (.ofQuery field q) :: facetNotes k resource q rest

end CatalogSearch
