import CatalogSearch.Compiler.Expression
import CatalogSearch.Proofs.Comparator.Shape
import CatalogSearch.Proofs.Query.Combine

/-!
The shape of compiled expressions. Compilation is taken apart into the steps that succeeded; each
clause gives an unmixed query if the strategies do, each connective keeps queries unmixed, and so
the query of every expression is unmixed before its promotion.
-/

namespace CatalogSearch.Compiler

variable {c : Compiler} {resource : String}

/-! ### The steps of a compilation -/

theorem clauseQuery_eq_ok_iff {clause : Clause} {q : Query} :
    c.clauseQuery resource clause = .ok q ↔
      (isMatchAll clause = true ∧ q = .matchAll) ∨
      (isMatchAll clause = false ∧ ∃ t v s,
        target? c.catalog resource (c.catalog.resolveAlias resource clause.index) = some t ∧
        c.normalizedValue resource t clause.term = .ok v ∧
        c.strategyFor v clause.comparator = .ok s ∧
        targetQuery c.catalog resource s v clause.modifiers t = .ok q) := by
  unfold clauseQuery
  cases isMatchAll clause with
  | true =>
      simp only [if_true, Except.ok.injEq, true_and, Bool.true_eq_false, false_and, or_false]
      exact eq_comm
  | false =>
      simp only [Bool.false_eq_true, if_false, false_and, true_and, false_or]
      cases target? c.catalog resource (c.catalog.resolveAlias resource clause.index) with
      | none => simp
      | some t => simp [bind_eq_ok_iff]

theorem strategyFor_eq_ok_iff {v : Value} {comparator : String} {s : Strategy} :
    c.strategyFor v comparator = .ok s ↔
      c.dispatch.lookup (if isPattern v then Strategy.wildcardComparator
        else Text.lowerString comparator) = some s := by
  simp only [strategyFor]
  split
  · next owner hkey => rw [hkey, Except.ok.injEq, Option.some.injEq]
  · next hkey => simp [hkey]

/-- A pattern goes to one strategy, whatever the comparator. -/
theorem strategyFor_of_isPattern (hd : c.dispatch = .standard) {v : Value}
    (hpattern : isPattern v = true) (comparator : String) :
    c.strategyFor v comparator = .ok .wildcard := by
  have hs : Strategy.wildcard ∈ Strategy.standard := by simp [Strategy.standard]
  have howner := Dispatch.lookup_standard hs (List.mem_singleton.2 rfl)
  rw [strategyFor_eq_ok_iff, hd, if_pos hpattern, howner]

theorem strategyFor_of_not_isPattern (hd : c.dispatch = .standard) {v : Value}
    (hpattern : isPattern v = false) {s : Strategy} {comparator : String}
    (hs : s ∈ Strategy.standard) (hcomparator : comparator ∈ s.comparators)
    (hlower : Text.lowerString comparator = comparator) :
    c.strategyFor v comparator = .ok s := by
  have howner := Dispatch.lookup_standard hs hcomparator
  rw [strategyFor_eq_ok_iff, hd, hpattern, if_neg Bool.false_ne_true, hlower, howner]

/-- A group that is a target has members. -/
theorem members_ne_nil {k : Catalog} {path : String} {members : List String}
    (h : target? k resource path = some (.group members)) : members ≠ [] := by
  unfold target? at h
  split at h
  · simp at h
  · simp at h
  · next hnil _ =>
      obtain rfl := Target.group.inj (Option.some.inj h)
      exact hnil

theorem expressionQuery_boolean_eq_ok_iff {op : Connective} {left right : Expression} {p : Query} :
    c.expressionQuery resource (.boolean op left right) = .ok p ↔
      ∃ combine q r, combine? op = some combine ∧ c.expressionQuery resource left = .ok q ∧
        c.expressionQuery resource right = .ok r ∧ p = combine q r := by
  rw [expressionQuery]
  cases combine? op with
  | none => simp
  | some combine =>
      simp only [bind_eq_ok_iff, pure, Except.pure, Except.ok.injEq, Option.some.injEq]
      constructor
      · rintro ⟨q, hq, r, hr, rfl⟩
        exact ⟨combine, q, r, rfl, hq, hr, rfl⟩
      · rintro ⟨_, q, r, rfl, hq, hr, rfl⟩
        exact ⟨q, hq, r, hr, rfl⟩

theorem compile_eq_ok_iff {e : Expression} {s : SearchQuery} :
    c.compile resource e = .ok s ↔
      ∃ q sort, c.expressionQuery resource e.splitSort.1 = .ok q ∧
        c.catalog.resolveSort resource e.splitSort.2 = .ok sort ∧
        s = ⟨q.promote c.catalog resource, sort⟩ := by
  simp only [compile, bind_eq_ok_iff, pure, Except.pure, Except.ok.injEq]
  constructor
  · rintro ⟨q, hq, sort, hsort, rfl⟩
    exact ⟨q, sort, hq, hsort, rfl⟩
  · rintro ⟨q, sort, hq, hsort, rfl⟩
    exact ⟨q, hq, sort, hsort, rfl⟩

/-! ### Compiled queries are unmixed -/

theorem unmixed_targetQuery {s : Strategy} (hs : s.Unmixed) {t : Target}
    (ht : ∀ members, t = .group members → members ≠ []) (v : Value) (modifiers : List Modifier) :
    Yields Query.Unmixed (targetQuery c.catalog resource s v modifiers t) := by
  unfold targetQuery
  split
  · next members =>
      apply hs.onGroup
      simpa [groupMembers] using ht members rfl
  · next f =>
      split
      · exact hs.onFulltext v _ modifiers
      · split
        · exact yields_error _ _
        · intro q hq
          obtain ⟨w, -, hq⟩ := bind_eq_ok_iff.1 hq
          exact hs.onTerm w f.path q hq

theorem unmixed_clauseQuery (hd : c.dispatch.Unmixed) (clause : Clause) :
    Yields Query.Unmixed (c.clauseQuery resource clause) := by
  intro q hq
  rcases clauseQuery_eq_ok_iff.1 hq with ⟨-, rfl⟩ | ⟨-, t, v, s, ht, -, hs, hq⟩
  · exact .matchAll
  · refine unmixed_targetQuery (hd _ s (strategyFor_eq_ok_iff.1 hs)) ?_ v clause.modifiers q hq
    rintro members rfl
    exact members_ne_nil ht

theorem unmixed_combine {op : Connective} {combine : Query → Query → Query} {q r : Query}
    (h : combine? op = some combine) (hq : q.Unmixed) (hr : r.Unmixed) :
    (combine q r).Unmixed := by
  cases op with
  | and =>
      obtain rfl := Option.some.inj h
      exact Query.unmixed_conjunction hq hr
  | or =>
      obtain rfl := Option.some.inj h
      exact Query.unmixed_joinShould hq hr
  | not =>
      obtain rfl := Option.some.inj h
      exact Query.unmixed_difference hq hr
  | prox => cases h

theorem unmixed_expressionQuery (hd : c.dispatch.Unmixed) (e : Expression) :
    Yields Query.Unmixed (c.expressionQuery resource e) := by
  induction e with
  | clause clause => exact unmixed_clauseQuery hd clause
  | boolean op left right ihleft ihright =>
      intro p hp
      obtain ⟨combine, q, r, hcombine, hq, hr, rfl⟩ := expressionQuery_boolean_eq_ok_iff.1 hp
      exact unmixed_combine hcombine (ihleft q hq) (ihright r hr)
  | sorted subtree indexes _ => exact yields_error _ _
  | assigned name uri subtree _ => exact yields_error _ _

/-- **The shape of compiled queries.** Whatever the catalog, the normalizers and the expression, a
compilation that succeeds ends in a promoted query. -/
theorem promoted_compile (k : Catalog) (normalizers : NormalizerRegistry)
    (browse : BrowseSettings) (resource : String) (e : Expression) (s : SearchQuery)
    (h : Compiler.compile ⟨k, normalizers, .standard, browse⟩ resource e = .ok s) :
    s.query.Promoted k resource := by
  obtain ⟨q, sort, hq, -, rfl⟩ := compile_eq_ok_iff.1 h
  exact Query.promoted_promote (unmixed_expressionQuery Dispatch.unmixed_standard _ q hq)

/-- Novels and essays about whales, with three to ten copies each and no word of the sea in their
names. -/
def whaleBooks : Expression :=
  .boolean .and
    (.boolean .and
      (.boolean .or (.clause ⟨"genre", "=", "novel", []⟩) (.clause ⟨"subject", "==", "essay", []⟩))
      (.boolean .and (.clause ⟨"copies", ">", "2", []⟩) (.clause ⟨"copies", "<=", "10", []⟩)))
    (.boolean .not (.clause ⟨"title", "all", "whale", []⟩) (.clause ⟨"names", "any", "sea", []⟩))

/-- The genres become a filter, the two ranges one range, and the difference stays a clause. -/
def whaleQuery : Query :=
  .bool
    [.range ⟨"copies", some (.long 2), some (.long 10), false, true⟩,
      .bool [.fulltext ["title.*"] "whale" .all] [] [.fulltext ["title.*", "author"] "sea" .any] []]
    [] []
    [.bool [] [.term "genre" (.text "novel"), .term "genre" (.text "essay")] [] []]

theorem compile_whaleBooks :
    Compiler.compile ⟨.books, .standard, .standard, .standard⟩ "book"
        (.sorted whaleBooks [⟨"copies", []⟩]) =
      .ok ⟨whaleQuery, [⟨"sort_copies", .ascending, none⟩]⟩ := by
  decide +kernel

theorem promoted_whaleQuery :
    Compiler.compile ⟨.books, .standard, .standard, .standard⟩ "book"
        (.sorted whaleBooks [⟨"copies", []⟩]) =
      .ok ⟨whaleQuery, [⟨"sort_copies", .ascending, none⟩]⟩ ∧
    whaleQuery.Promoted .books "book" :=
  ⟨compile_whaleBooks, promoted_compile .books .standard .standard "book" _ _ compile_whaleBooks⟩

end CatalogSearch.Compiler
