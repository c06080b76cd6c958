import CatalogSearch.Proofs.Compiler.Shape

/-!
What expressions mean. The meaning of an expression is put together from the queries of its clauses
by the connectives alone, without flattening, collapsed ranges or filters. The query that an
expression is compiled to finds the same documents, provided that two ranges of one field that are
joined by a conjunction are opposed: otherwise one of two equal ends is lost.
-/

namespace CatalogSearch

/-- The truth of two joined statements. Proximity is not supported, and nothing holds by it. -/
def Connective.holds : Connective → Bool → Bool → Bool
  | and, p, q => p && q
  | or, p, q => p || q
  | not, p, q => p && !q
  | prox, _, _ => false

namespace Expression

variable (c : Compiler) (resource : String)

/-- Whether a document is one that an expression asks for. -/
def finds (rule : ChoiceRule) (d : Document) : Expression → Bool
  | clause cl =>
    match c.clauseQuery resource cl with
    | .ok q => q.finds rule d
    | .error _ => false
  | boolean op left right => op.holds (left.finds rule d) (right.finds rule d)
  | sorted subtree _ => subtree.finds rule d
  | assigned _ _ subtree => subtree.finds rule d

/-- The range that an expression is compiled to, if it is one. -/
def range? (e : Expression) : Option Range :=
  (c.expressionQuery resource e).toOption.bind Query.range?

/-- Every conjunction of two ranges of one field is between opposed ranges. -/
def RangesOpposed : Expression → Prop
  | clause _ => True
  | boolean op left right =>
    left.RangesOpposed ∧ right.RangesOpposed ∧
      (op = .and → ∀ r ∈ left.range? c resource, ∀ s ∈ right.range? c resource,
        r.field = s.field → r.Opposed s)
  | sorted subtree _ => subtree.RangesOpposed
  | assigned _ _ subtree => subtree.RangesOpposed

instance decidableRangesOpposed : ∀ e : Expression, Decidable (e.RangesOpposed c resource)
  | clause _ => isTrue trivial
  | boolean op left right =>
    have := decidableRangesOpposed left
    have := decidableRangesOpposed right
    inferInstanceAs (Decidable (_ ∧ _ ∧ (op = .and → _)))
  | sorted subtree _ => decidableRangesOpposed subtree
  | assigned _ _ subtree => decidableRangesOpposed subtree

variable {c resource} in
theorem mem_range? {e : Expression} {r : Range} :
    r ∈ e.range? c resource ↔ c.expressionQuery resource e = .ok (.range r) := by
  rw [range?, Option.mem_def]
  cases c.expressionQuery resource e with
  | error err => simp [Except.toOption]
  | ok q => cases q <;> simp [Except.toOption, Query.range?]

theorem finds_splitSort (rule : ChoiceRule) (d : Document) (e : Expression) :
    e.splitSort.1.finds c resource rule d = e.finds c resource rule d := by
  cases e <;> rfl

theorem rangesOpposed_splitSort (e : Expression) :
    e.splitSort.1.RangesOpposed c resource ↔ e.RangesOpposed c resource := by
  cases e <;> exact Iff.rfl

end Expression

namespace Compiler

variable {c : Compiler} {resource : String} (rule : ChoiceRule) (d : Document)

theorem finds_combine {op : Connective} {combine : Query → Query → Query} {q r : Query}
    (h : combine? op = some combine) (hq : q.Unmixed)
    (hopposed : op = .and → ∀ s t, q = .range s → r = .range t → s.field = t.field →
      s.Opposed t) :
    (combine q r).finds rule d = op.holds (q.finds rule d) (r.finds rule d) := by
  cases op with
  | and =>
      obtain rfl := Option.some.inj h
      exact Query.finds_conjunction rule d (hopposed rfl)
  | or =>
      obtain rfl := Option.some.inj h
      exact Query.finds_joinShould rule d hq r
  | not =>
      obtain rfl := Option.some.inj h
      exact Query.finds_difference rule d q r
  | prox => cases h

/-- The query of an expression before promotion, by induction on the expression: flattening a choice
is sound because the left operand is unmixed. -/
theorem finds_expressionQuery (hd : c.dispatch.Unmixed) {e : Expression} {p : Query}
    (hopposed : e.RangesOpposed c resource) (h : c.expressionQuery resource e = .ok p) :
    p.finds rule d = e.finds c resource rule d := by
  induction e generalizing p with
  | clause cl =>
      have hcl : c.clauseQuery resource cl = .ok p := h
      rw [Expression.finds, hcl]
  | boolean op left right ihleft ihright =>
      obtain ⟨hleft, hright, hranges⟩ := hopposed
      obtain ⟨combine, q, r, hcombine, hq, hr, rfl⟩ := expressionQuery_boolean_eq_ok_iff.1 h
      rw [Expression.finds, ← ihleft hleft hq, ← ihright hright hr]
      apply finds_combine rule d hcombine (unmixed_expressionQuery hd left q hq)
      rintro hop s t rfl rfl hfield
      exact hranges hop s (Expression.mem_range?.2 hq) t (Expression.mem_range?.2 hr) hfield
  | sorted subtree indexes _ => cases h
  | assigned name uri subtree _ => cases h

/-- **Compilation preserves meaning.** Whatever the catalog and the normalizers, and under either
reading of a choice beside demands, the compiled query finds a document exactly if the expression
asks for it. -/
theorem finds_compile (k : Catalog) (normalizers : NormalizerRegistry) (browse : BrowseSettings)
    (resource : String) (e : Expression) (s : SearchQuery)
    (hopposed : e.RangesOpposed ⟨k, normalizers, .standard, browse⟩ resource)
    (h : Compiler.compile ⟨k, normalizers, .standard, browse⟩ resource e = .ok s) :
    s.query.finds rule d = e.finds ⟨k, normalizers, .standard, browse⟩ resource rule d := by
  obtain ⟨q, sort, hq, -, rfl⟩ := compile_eq_ok_iff.1 h
  rw [Query.finds_promote, ← Expression.finds_splitSort]
  apply finds_expressionQuery rule d Dispatch.unmixed_standard _ hq
  exact (Expression.rangesOpposed_splitSort _ resource e).2 hopposed

/-- A novel about whales of which there are five copies. -/
def whaleNovel : Document where
  term field v := field == "genre" && v == .text "novel"
  wildcard _ _ := false
  fulltext _ words _ := words == "whale"
  atLeast field v _ := field == "copies" && v == .long 2
  atMost field v _ := field == "copies" && v == .long 10

theorem finds_whaleQuery :
    (Expression.sorted whaleBooks [⟨"copies", []⟩]).RangesOpposed
        ⟨.books, .standard, .standard, .standard⟩ "book" ∧
      Compiler.compile ⟨.books, .standard, .standard, .standard⟩ "book"
          (.sorted whaleBooks [⟨"copies", []⟩]) =
        .ok ⟨whaleQuery, [⟨"sort_copies", .ascending, none⟩]⟩ ∧
      whaleQuery.finds .always whaleNovel = true := by
  have hopposed : (Expression.sorted whaleBooks [⟨"copies", []⟩]).RangesOpposed
      ⟨.books, .standard, .standard, .standard⟩ "book" := by
    decide +kernel
  refine ⟨hopposed, compile_whaleBooks, ?_⟩
  exact (finds_compile .always whaleNovel .books .standard .standard "book" _ _ hopposed
    compile_whaleBooks).trans (by decide +kernel)

end Compiler

end CatalogSearch
