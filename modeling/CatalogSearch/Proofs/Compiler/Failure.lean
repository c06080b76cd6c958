import CatalogSearch.Proofs.Compiler.Chain

/-!
Why a compilation fails. The nodes of an expression are taken in pre-order, without those below
proximity, a sort or an assignment. An expression is compiled exactly if none of these nodes is at
fault by itself and all keys of its sort can be resolved. Otherwise the error is that of the first
node at fault, and the sort is looked at only if there is none.
-/

namespace CatalogSearch

/-- The nodes that compilation comes to, each before its operands and those from left to right. -/
def Expression.visited : Expression → List Expression
  | boolean .prox left right => [boolean .prox left right]
  | boolean op left right => boolean op left right :: (left.visited ++ right.visited)
  | e => [e]

namespace Compiler

variable {c : Compiler} {resource : String}

/-- A node is at fault by itself, whatever stands around or below it: a clause that has no query, or
a node that has no meaning as a query. -/
inductive Offends (c : Compiler) (resource : String) : Expression → CompileError → Prop where
  | clause {cl : Clause} {err : CompileError} (h : c.clauseQuery resource cl = .error err) :
      Offends c resource (.clause cl) err
  | proximity (left right : Expression) :
      Offends c resource (.boolean .prox left right) (.unsupported (.connective "prox"))
  | sorted (subtree : Expression) (indexes : List SortIndex) :
      Offends c resource (.sorted subtree indexes) (.unsupported .innerSort)
  | assigned (name : Option String) (uri : String) (subtree : Expression) :
      Offends c resource (.assigned name uri subtree) (.unsupported (.assignment uri))

/-- The fault of a node by itself. -/
def fault? (c : Compiler) (resource : String) : Expression → Option CompileError
  | .clause cl => failure? (c.clauseQuery resource cl)
  | .boolean .prox _ _ => some (.unsupported (.connective "prox"))
  | .boolean _ _ _ => none
  | .sorted _ _ => some (.unsupported .innerSort)
  | .assigned _ uri _ => some (.unsupported (.assignment uri))

theorem fault?_eq_some_iff {node : Expression} {err : CompileError} :
    c.fault? resource node = some err ↔ c.Offends resource node err := by
  constructor
  · intro h
    cases node with
    | clause cl => exact .clause (failure?_eq_some_iff.1 h)
    | boolean op left right =>
        cases op with
        | prox =>
            obtain rfl := Option.some.inj h
            exact .proximity left right
        | _ => cases h
    | sorted subtree indexes =>
        obtain rfl := Option.some.inj h
        exact .sorted subtree indexes
    | assigned name uri subtree =>
        obtain rfl := Option.some.inj h
        exact .assigned name uri subtree
  · rintro (h | _ | _ | _)
    · exact failure?_eq_some_iff.2 h
    all_goals rfl

theorem fault?_eq_none_iff {node : Expression} :
    c.fault? resource node = none ↔ ∀ err, ¬ c.Offends resource node err := by
  simp only [Option.eq_none_iff_forall_ne_some, ne_eq, fault?_eq_some_iff]

/-! ### The first fault -/

theorem failure?_join {op : Connective} {combine : Query → Query → Query}
    (hop : combine? op = some combine) (left right : Expression) :
    failure? (c.expressionQuery resource (.boolean op left right)) =
      (failure? (c.expressionQuery resource left)).or
        (failure? (c.expressionQuery resource right)) := by
  rw [expressionQuery, hop]
  exact failure?_bind fun q => failure?_bind_pure _ (combine q)

theorem findSome?_visited_join {op : Connective} {combine : Query → Query → Query}
    (hop : combine? op = some combine) (left right : Expression) :
    (Expression.boolean op left right).visited.findSome? (c.fault? resource) =
      (left.visited.findSome? (c.fault? resource)).or
        (right.visited.findSome? (c.fault? resource)) := by
  rw [← List.findSome?_append]
  cases op with
  | prox => cases hop
  | _ => rfl

/-- The error of an expression without a sort, by induction on the expression: an operand is reached
only if no node before it is at fault. -/
theorem failure?_expressionQuery (e : Expression) :
    failure? (c.expressionQuery resource e) = e.visited.findSome? (c.fault? resource) := by
  induction e with
  | clause cl =>
      have hvisited : (Expression.clause cl).visited = [.clause cl] := rfl
      rw [hvisited, List.findSome?_singleton]
      rfl
  | boolean op left right ihleft ihright =>
      cases hop : combine? op with
      | none =>
          cases op with
          | prox => rfl
          | _ => cases hop
      | some combine => rw [failure?_join hop, findSome?_visited_join hop, ihleft, ihright]
  | sorted subtree indexes _ => rfl
  | assigned name uri subtree _ => rfl

theorem failure?_resolveSort (k : Catalog) (indexes : List SortIndex) :
    failure? (k.resolveSort resource indexes) =
      indexes.findSome? fun i => failure? (i.resolve k resource) := by
  rw [Catalog.resolveSort, ← failure?_mapM]
  exact failure?_bind_pure _ List.flatten

theorem failure?_compile (e : Expression) :
    failure? (c.compile resource e) =
      (e.splitSort.1.visited.findSome? (c.fault? resource)).or
        (e.splitSort.2.findSome? fun i => failure? (i.resolve c.catalog resource)) := by
  rw [← failure?_expressionQuery, ← failure?_resolveSort]
  exact failure?_bind fun q => failure?_bind_pure _ (SearchQuery.mk (q.promote c.catalog resource))

/-! ### When a compilation fails, and with what -/

theorem findSome?_fault?_eq_some_iff {nodes : List Expression} {err : CompileError} :
    nodes.findSome? (c.fault? resource) = some err ↔
      ∃ before node after, nodes = before ++ node :: after ∧ c.Offends resource node err ∧
        ∀ n ∈ before, ∀ err', ¬ c.Offends resource n err' := by
  simp only [List.findSome?_eq_some_iff, fault?_eq_some_iff, fault?_eq_none_iff]

theorem findSome?_fault?_eq_none_iff {nodes : List Expression} :
    nodes.findSome? (c.fault? resource) = none ↔
      ∀ n ∈ nodes, ∀ err, ¬ c.Offends resource n err := by
  simp only [List.findSome?_eq_none_iff, fault?_eq_none_iff]

/-- The sort keys of an expression do not bear on its query. -/
theorem compile_sorted_eq_of_compile {e : Expression} {s : SearchQuery}
    (h : c.compile resource e = .ok s) (indexes : List SortIndex) :
    c.compile resource (.sorted e.splitSort.1 indexes) =
      SearchQuery.mk s.query <$> c.catalog.resolveSort resource indexes := by
  obtain ⟨q, sort, hq, -, rfl⟩ := compile_eq_ok_iff.1 h
  have hsplit : (Expression.sorted e.splitSort.1 indexes).splitSort =
      (e.splitSort.1, indexes) := rfl
  simp only [compile, hsplit, hq]
  cases c.catalog.resolveSort resource indexes <;> rfl

/-- **Compilation fails exactly on what it has no meaning for, and says what comes first.** It
succeeds if no node that it comes to is at fault and every key of the sort can be resolved.
Otherwise the error is that of the first node at fault, or of the first key at fault if no node is.
The sort keys do not bear on the query. -/
theorem compile_firstFault (c : Compiler) (resource : String) (e : Expression) :
    ((∃ s, c.compile resource e = .ok s) ↔
      (∀ n ∈ e.splitSort.1.visited, ∀ err, ¬ c.Offends resource n err) ∧
        ∀ i ∈ e.splitSort.2, ∃ keys, i.resolve c.catalog resource = .ok keys) ∧
    (∀ err, c.compile resource e = .error err ↔
      (∃ before node after, e.splitSort.1.visited = before ++ node :: after ∧
        c.Offends resource node err ∧ ∀ n ∈ before, ∀ err', ¬ c.Offends resource n err') ∨
      ((∀ n ∈ e.splitSort.1.visited, ∀ err', ¬ c.Offends resource n err') ∧
        ∃ before i after, e.splitSort.2 = before ++ i :: after ∧
          i.resolve c.catalog resource = .error err ∧
          ∀ j ∈ before, ∃ keys, j.resolve c.catalog resource = .ok keys)) ∧
    ∀ s, c.compile resource e = .ok s →
      c.compile resource e.splitSort.1 = .ok ⟨s.query, []⟩ ∧
      ∀ indexes, c.compile resource (.sorted e.splitSort.1 indexes) =
        SearchQuery.mk s.query <$> c.catalog.resolveSort resource indexes := by
  refine ⟨?_, fun err => ?_, fun s hs => ⟨?_, compile_sorted_eq_of_compile hs⟩⟩
  · rw [← failure?_eq_none_iff, failure?_compile, Option.or_eq_none_iff,
      findSome?_fault?_eq_none_iff, List.findSome?_eq_none_iff]
    simp only [failure?_eq_none_iff]
  · rw [← failure?_eq_some_iff, failure?_compile, Option.or_eq_some_iff,
      findSome?_fault?_eq_some_iff, findSome?_fault?_eq_none_iff, List.findSome?_eq_some_iff]
    simp only [failure?_eq_none_iff, failure?_eq_some_iff]
  · obtain ⟨q, sort, hq, -, rfl⟩ := compile_eq_ok_iff.1 hs
    exact compile_of_expressionQuery hq

/-- Proximity is reported, not the number of copies behind it that cannot be read, nor the sort by
a field that has none. The whale books are found by the same query without their sort. -/
theorem compile_firstFault_books :
    let c : Compiler := ⟨.books, .standard, .standard, .standard⟩
    let novels : Expression := .clause ⟨"genre", "=", "novel", []⟩
    let close : Expression :=
      .boolean .prox (.clause ⟨"title", "=", "sea", []⟩) (.clause ⟨"shelf", "=", "1", []⟩)
    let copies : Expression := .clause ⟨"copies", "=", "many", []⟩
    c.compile "book" (.sorted (.boolean .and (.boolean .or novels close) copies) [⟨"genre", []⟩]) =
        .error (.unsupported (.connective "prox")) ∧
      c.compile "book" whaleBooks = .ok ⟨whaleQuery, []⟩ := by
  intro c novels close copies
  let before : List Expression :=
    [.boolean .and (.boolean .or novels close) copies, .boolean .or novels close, novels]
  have hbefore : ∀ n ∈ before, c.fault? "book" n = none := by
    decide +kernel
  have hfirst : (Expression.boolean .and (.boolean .or novels close) copies).visited =
      before ++ close :: [copies] := rfl
  refine ⟨((compile_firstFault c "book" _).2.1 _).2 (Or.inl ?_),
    ((compile_firstFault c "book" _).2.2 _ compile_whaleBooks).1⟩
  refine ⟨before, close, [copies], hfirst, .proximity _ _, fun n hn => ?_⟩
  exact fault?_eq_none_iff.1 (hbefore n hn)

end Compiler

end CatalogSearch
