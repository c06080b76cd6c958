import CatalogSearch.Proofs.Compiler.Shape
import CatalogSearch.Proofs.Query.Chain

/-!
Compilation of chains. Operands that are joined from left to right by one connective are compiled
one by one and their queries joined in the same way. So a conjunction of one expression with others
that can all be filters is compiled to the query of that expression beside the queries of the
others, wherever it stands among them.
-/

namespace CatalogSearch.Compiler

variable {c : Compiler} {resource : String}

/-- The query of a chain, by induction on the operands after the first with the chain so far
generalised. -/
theorem expressionQuery_foldl {op : Connective} {combine : Query → Query → Query}
    (hop : combine? op = some combine) {first : Expression} {q : Query}
    (hfirst : c.expressionQuery resource first = .ok q) {rest : List Expression} {qs : List Query}
    (hrest : List.Forall₂ (fun e q => c.expressionQuery resource e = .ok q) rest qs) :
    c.expressionQuery resource (rest.foldl (.boolean op) first) = .ok (qs.foldl combine q) := by
  induction hrest generalizing first q with
  | nil => exact hfirst
  | cons he _ ih =>
      apply ih
      exact expressionQuery_boolean_eq_ok_iff.2 ⟨combine, q, _, hop, hfirst, he, rfl⟩

theorem expressionQuery_leftNested {op : Connective} {combine : Query → Query → Query}
    (hop : combine? op = some combine) {before after : List Expression} {e : Expression}
    {gs hs : List Query} {q : Query}
    (hbefore : List.Forall₂ (fun e q => c.expressionQuery resource e = .ok q) before gs)
    (he : c.expressionQuery resource e = .ok q)
    (hafter : List.Forall₂ (fun e q => c.expressionQuery resource e = .ok q) after hs) :
    c.expressionQuery resource (leftNested (.boolean op) before e after) =
      .ok (leftNested combine gs q hs) := by
  cases hbefore with
  | nil => exact expressionQuery_foldl hop he hafter
  | cons hfirst hrest =>
      exact expressionQuery_foldl hop hfirst (List.rel_append hrest (.cons he hafter))

/-- An expression that has a query is not sorted. -/
theorem splitSort_of_expressionQuery {e : Expression} {q : Query}
    (h : c.expressionQuery resource e = .ok q) : e.splitSort = (e, []) := by
  cases e with
  | sorted subtree indexes => cases h
  | _ => rfl

theorem compile_of_expressionQuery {e : Expression} {q : Query}
    (h : c.expressionQuery resource e = .ok q) :
    c.compile resource e = .ok ⟨q.promote c.catalog resource, []⟩ := by
  refine compile_eq_ok_iff.2 ⟨q, [], ?_, ?_, rfl⟩
  · rw [splitSort_of_expressionQuery h]
    exact h
  · rw [splitSort_of_expressionQuery h]
    rfl

/-- The query of an expression among others that can be filters. -/
theorem compile_leftNested {before after : List Expression} {e : Expression} {gs hs : List Query}
    {q : Query} (hbefore : List.Forall₂ (fun e q => c.expressionQuery resource e = .ok q) before gs)
    (he : c.expressionQuery resource e = .ok q)
    (hafter : List.Forall₂ (fun e q => c.expressionQuery resource e = .ok q) after hs)
    (hgs : ∀ g ∈ gs, g.FilterClause c.catalog resource)
    (hhs : ∀ g ∈ hs, g.FilterClause c.catalog resource)
    (hq : q.OneDemand) (hsettled : q.Settled c.catalog resource) :
    c.compile resource (leftNested (.boolean .and) before e after) =
      .ok ⟨q.beside (gs ++ hs), []⟩ := by
  rw [compile_of_expressionQuery (expressionQuery_leftNested rfl hbefore he hafter),
    Query.promote_leftNested hgs hhs hq hsettled]

end CatalogSearch.Compiler
