import CatalogSearch.Proofs.Browse.Shape
import CatalogSearch.Proofs.Compiler.Chain
import CatalogSearch.Proofs.Compiler.Field

/-!
Browse expressions. An expression that asks for the values of a field below a bound, from a bound
on, or on both sides of it, joined with any number of expressions that can be filters, is compiled
to a query that can be browsed, wherever the browsed part stands in the chain. The context has the
filters in their order, and a choice of two sides gives one context in either order.
-/

namespace CatalogSearch

namespace Query

variable {k : Catalog} {resource : String}

theorem oneDemand_range (r : Range) : (range r).OneDemand :=
  oneDemand_of_clauses_eq_nil rfl

theorem settled_range (r : Range) : (range r).Settled k resource :=
  settled_of_clauses_eq_nil rfl (by rintro ⟨⟩)

theorem settled_choice_ranges (r s : Range) :
    (bool [] [range r, range s] [] []).Settled k resource where
  whole := by
    intro h
    generalize hshould : [range r, range s] = should at h
    cases h with
    | choice field v vs _ => cases hshould
  clauses := by
    rintro must should mustNot filter ⟨⟩ c hc
    cases hc

end Query

theorem Compiler.expressionQuery_or_ranges {c : Compiler} {resource : String} {e e' : Expression}
    {r s : Range} (he : c.expressionQuery resource e = .ok (.range r))
    (he' : c.expressionQuery resource e' = .ok (.range s)) :
    c.expressionQuery resource (.boolean .or e e') =
      .ok (.bool [] [.range r, .range s] [] []) :=
  Compiler.expressionQuery_boolean_eq_ok_iff.2 ⟨_, _, _, rfl, he, he', rfl⟩

namespace BrowseRequest

variable {b : BrowseRequest} {r s : Range} {v : Value} {share : Nat}

/-! ### The contexts of browse queries beside filters -/

theorem context_upTo (filters : List Query) (hfield : r.field = b.field) (hr : r.UpTo v) :
    b.context ⟨(Query.range r).beside filters, []⟩ = .ok (b.pageBefore r filters v) := by
  refine context_eq_ok_iff.2 ⟨rfl, ?_⟩
  rw [ofQuery_range_beside]
  exact oneDirection_eq_ok_iff.2 ⟨hfield, v, Or.inl ⟨hr, rfl⟩⟩

theorem context_from (filters : List Query) (hfield : r.field = b.field) (hr : r.From v) :
    b.context ⟨(Query.range r).beside filters, []⟩ = .ok (b.pageAfter r filters v) := by
  refine context_eq_ok_iff.2 ⟨rfl, ?_⟩
  rw [ofQuery_range_beside]
  exact oneDirection_eq_ok_iff.2 ⟨hfield, v, Or.inr ⟨hr, rfl⟩⟩

/-- The two ranges of a choice may stand in either order. -/
theorem context_choice {first second : Range} (filters : List Query) (hr : r.UpTo v)
    (hs : s.From v) (hrfield : r.field = b.field) (hsfield : s.field = b.field)
    (hshare : b.precedingShare = .ok share)
    (horder : (first = r ∧ second = s) ∨ (first = s ∧ second = r)) :
    b.context ⟨(Query.bool [] [.range first, .range second] [] []).beside filters, []⟩ =
      .ok (b.pageAround r s filters v share) := by
  refine context_eq_ok_iff.2 ⟨rfl, ?_⟩
  rw [ofQuery_choice_beside, List.append_nil, aroundRanges_eq_ok_iff]
  rcases horder with ⟨rfl, rfl⟩ | ⟨rfl, rfl⟩
  · exact ⟨hrfield, hsfield, v, share, hshare, Or.inl ⟨hr, hs, rfl⟩⟩
  · exact ⟨hsfield, hrfield, v, share, hshare, Or.inr ⟨hr, hs, rfl⟩⟩

/-! ### The contexts of browse expressions -/

/-- **Browse expressions with filters are accepted.** The browsed part of an expression is a clause
on one side of a value of the field, or the choice of two clauses on either side of it; the other
operands of the chain can be filters. The context has the filters in the order of the chain, the
value as its anchor, and does not depend on the order of the choice. -/
theorem context_compile_leftNested (c : Compiler) (hd : c.dispatch = .standard) (resource : String)
    (b : BrowseRequest) (f : Field) (hf : c.catalog.NamedByPath resource f)
    (hfull : f.isFulltext = false) (hfield : b.field = f.path)
    (hcount : ∀ count ∈ b.precedingCount, count ≤ b.limit)
    (text lower upper : String) (hlower : lower ∈ ["<", "<="]) (hupper : upper ∈ [">", ">="])
    (hr : c.clauseQuery resource ⟨f.path, lower, text, []⟩ = .ok (.range r))
    (hs : c.clauseQuery resource ⟨f.path, upper, text, []⟩ = .ok (.range s))
    (before after : List Expression) (gs gs' : List Query)
    (hbefore : List.Forall₂ (fun e q => c.expressionQuery resource e = .ok q) before gs)
    (hafter : List.Forall₂ (fun e q => c.expressionQuery resource e = .ok q) after gs')
    (hgs : ∀ g ∈ gs, g.FilterClause c.catalog resource)
    (hgs' : ∀ g ∈ gs', g.FilterClause c.catalog resource) :
    let below : Expression := .clause ⟨f.path, lower, text, []⟩
    let above : Expression := .clause ⟨f.path, upper, text, []⟩
    let contextOf (e : Expression) :=
      c.compile resource (leftNested (.boolean .and) before e after) >>= b.context
    let share := b.precedingCount.getD (b.limit / 2)
    ∃ anchor, c.fieldValue resource f text = .ok anchor ∧
      contextOf below = .ok (b.pageBefore r (gs ++ gs') anchor) ∧
      contextOf above = .ok (b.pageAfter s (gs ++ gs') anchor) ∧
      contextOf (.boolean .or below above) = .ok (b.pageAround r s (gs ++ gs') anchor share) ∧
      contextOf (.boolean .or above below) = .ok (b.pageAround r s (gs ++ gs') anchor share) := by
  intro below above contextOf share
  have hcontextOf : ∀ {e : Expression} {q : Query}, c.expressionQuery resource e = .ok q →
      q.OneDemand → q.Settled c.catalog resource →
      contextOf e = b.context ⟨q.beside (gs ++ gs'), []⟩ := by
    intro e q he hq hsettled
    have hcompile := Compiler.compile_leftNested hbefore he hafter hgs hgs' hq hsettled
    exact congrArg (· >>= b.context) hcompile
  have hshare : b.precedingShare = .ok share := precedingShare_eq_ok_iff.2 ⟨hcount, rfl⟩
  obtain ⟨anchor, i, hanchor, rfl⟩ := Compiler.upTo_of_clauseQuery hd hf hfull hlower hr
  obtain ⟨anchor', j, hanchor', rfl⟩ := Compiler.from_of_clauseQuery hd hf hfull hupper hs
  obtain rfl : anchor = anchor' := Except.ok.inj (hanchor.symm.trans hanchor')
  have hbelow : c.expressionQuery resource below = .ok (.range (.atMost f.path anchor i)) := hr
  have habove : c.expressionQuery resource above = .ok (.range (.atLeast f.path anchor j)) := hs
  have hupTo := Range.upTo_atMost f.path anchor i
  have hfrom := Range.from_atLeast f.path anchor j
  refine ⟨anchor, hanchor, ?_, ?_, ?_, ?_⟩
  · rw [hcontextOf hbelow (Query.oneDemand_range _) (Query.settled_range _)]
    exact context_upTo (gs ++ gs') hfield.symm hupTo
  · rw [hcontextOf habove (Query.oneDemand_range _) (Query.settled_range _)]
    exact context_from (gs ++ gs') hfield.symm hfrom
  · have hor := Compiler.expressionQuery_or_ranges hbelow habove
    rw [hcontextOf hor (Query.oneDemand_choice _) (Query.settled_choice_ranges _ _)]
    exact context_choice (gs ++ gs') hupTo hfrom hfield.symm hfield.symm hshare (Or.inl ⟨rfl, rfl⟩)
  · have hor := Compiler.expressionQuery_or_ranges habove hbelow
    rw [hcontextOf hor (Query.oneDemand_choice _) (Query.settled_choice_ranges _ _)]
    exact context_choice (gs ++ gs') hupTo hfrom hfield.symm hfield.symm hshare (Or.inr ⟨rfl, rfl⟩)

end BrowseRequest

/-- The number of copies in the catalog of books. -/
def Field.copies : Field := ⟨"copies", [.sort], false, none, .long, none⟩

namespace BrowseRequest

/-- A page of nine books, three of which have fewer than five copies. -/
def aroundFiveCopies : BrowseRequest := ⟨"copies < 5 or copies >= 5", "copies", 9, some 3⟩

/-- The choice of copies stands between two filters. -/
theorem context_aroundFiveCopies :
    let c : Compiler := ⟨.books, .standard, .standard, .standard⟩
    let below : Expression := .clause ⟨"copies", "<", "5", []⟩
    let above : Expression := .clause ⟨"copies", ">=", "5", []⟩
    let genres : Expression :=
      .boolean .or (.clause ⟨"genre", "=", "novel", []⟩) (.clause ⟨"subject", "==", "poem", []⟩)
    let essay : Expression := .clause ⟨"genre", "==", "essay", []⟩
    c.compile "book" (.boolean .and (.boolean .and genres (.boolean .or above below)) essay) >>=
        aroundFiveCopies.context =
      .ok ⟨some ⟨"copies", none, some (.long 5), true, false⟩,
        some ⟨"copies", some (.long 5), none, true, true⟩,
        [.bool [] [.term "genre" (.text "novel"), .term "genre" (.text "poem")] [] [],
          .term "genre" (.text "essay")],
        .long 5, some 3, some 6⟩ := by
  intro c below above genres essay
  obtain ⟨anchor, hanchor, -, -, -, hcontext⟩ :=
    context_compile_leftNested c rfl "book" aroundFiveCopies .copies
      ⟨by decide, by decide, by decide⟩ (by decide) rfl (by decide) "5" "<" ">=" (by decide)
      (by decide) (r := ⟨"copies", none, some (.long 5), true, false⟩)
      (s := ⟨"copies", some (.long 5), none, true, true⟩) (by decide +kernel) (by decide +kernel)
      [genres] [essay]
      [.bool [] [.term "genre" (.text "novel"), .term "genre" (.text "poem")] [] []]
      [.term "genre" (.text "essay")] (.cons (by decide +kernel) .nil)
      (.cons (by decide +kernel) .nil) (by decide) (by decide)
  have hfive : c.fieldValue "book" .copies "5" = .ok (.long 5) := by decide +kernel
  obtain rfl := Except.ok.inj (hanchor.symm.trans hfive)
  exact hcontext

end BrowseRequest

end CatalogSearch
