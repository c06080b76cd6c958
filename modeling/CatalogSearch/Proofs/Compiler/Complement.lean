import CatalogSearch.Proofs.Compiler.Field
import CatalogSearch.Proofs.Compiler.Meaning

/-!
Equality and inequality. A clause with `<>` and one with `=` go through the same steps up to the
strategy, and the two strategies treat the kinds of targets in the same way, but for the exclusion.
So each finds what the other does not, unless the value is a pattern: patterns have one strategy for
all comparators, and the two clauses have the same query.
-/

namespace CatalogSearch

@[simp]
theorem Strategy.finds_noneOf (rule : ChoiceRule) (d : Document) (q : Query) :
    (noneOf q).finds rule d = !q.finds rule d := by
  rw [noneOf, Query.finds_demands]
  simp

namespace Compiler

variable {c : Compiler} {resource : String}

/-- On every kind of target, inequality excludes what equality asks for. With modifiers this fails:
equality takes the untokenized form of a field where it is asked for, and inequality does not. -/
theorem targetQuery_notEqual (k : Catalog) (resource : String) (v : Value) (t : Target) :
    targetQuery k resource .notEqual v [] t =
      Strategy.noneOf <$> targetQuery k resource .equal v [] t := by
  cases t with
  | group members => rfl
  | field f =>
      simp only [targetQuery]
      split_ifs
      · rfl
      · rfl
      · cases checkValue f v <;> rfl

theorem clauseQuery_of_strategyFor {index comparator term : String} {t : Target} {v : Value}
    {s : Strategy} {q : Query} (hne : comparator ≠ "=")
    (ht : target? c.catalog resource (c.catalog.resolveAlias resource index) = some t)
    (hv : c.normalizedValue resource t term = .ok v) (hs : c.strategyFor v comparator = .ok s)
    (hq : targetQuery c.catalog resource s v [] t = .ok q) :
    c.clauseQuery resource ⟨index, comparator, term, []⟩ = .ok q :=
  clauseQuery_eq_ok_iff.2 (Or.inr ⟨isMatchAll_of_ne_equal hne, t, v, s, ht, hv, hs, hq⟩)

/-- **Inequality is the complement of equality, except for patterns.** If a clause with `=` has a
query and does not ask for all records, the clause with `<>` has one as well. If the value, in the
form that the target holds, is no pattern, the second query finds exactly what the first does not.
If it is one, the two queries are the same. -/
theorem clauseQuery_notEqual (c : Compiler) (hd : c.dispatch = .standard)
    (resource index term : String) (q : Query)
    (hall : isMatchAll ⟨index, "=", term, []⟩ = false)
    (h : c.clauseQuery resource ⟨index, "=", term, []⟩ = .ok q) :
    ∃ t v r, target? c.catalog resource (c.catalog.resolveAlias resource index) = some t ∧
      c.normalizedValue resource t term = .ok v ∧
      c.clauseQuery resource ⟨index, "<>", term, []⟩ = .ok r ∧
      (isPattern v = false → ∀ rule d, r.finds rule d = !q.finds rule d) ∧
      (isPattern v = true → r = q) := by
  rcases clauseQuery_eq_ok_iff.1 h with ⟨hmatchAll, -⟩ | ⟨-, t, v, s, ht, hv, hs, hq⟩
  · rw [hall] at hmatchAll
    cases hmatchAll
  · have hne : "<>" ≠ "=" := by decide
    refine ⟨t, v, ?_⟩
    cases hpattern : isPattern v with
    | true =>
        have hs' : c.strategyFor v "<>" = .ok s := by
          rw [← hs, strategyFor_of_isPattern hd hpattern, strategyFor_of_isPattern hd hpattern]
        -- The comparator is not looked at, so the strategy and its query stay.
        have hr := clauseQuery_of_strategyFor hne ht hv hs' hq
        exact ⟨q, ht, hv, hr, by simp, fun _ => rfl⟩
    | false =>
        have hequal : Strategy.equal ∈ Strategy.standard := by simp [Strategy.standard]
        have hnotEqual : Strategy.notEqual ∈ Strategy.standard := by simp [Strategy.standard]
        have howner := strategyFor_of_not_isPattern hd hpattern hequal (List.mem_singleton.2 rfl)
          (by decide)
        have hs' := strategyFor_of_not_isPattern hd hpattern hnotEqual (List.mem_singleton.2 rfl)
          (by decide)
        obtain rfl := Except.ok.inj (hs.symm.trans howner)
        have hq' : targetQuery c.catalog resource .notEqual v [] t = .ok (Strategy.noneOf q) := by
          rw [targetQuery_notEqual, hq]
          rfl
        have hr := clauseQuery_of_strategyFor hne ht hv hs' hq'
        exact ⟨_, ht, hv, hr, fun _ rule d => Strategy.finds_noneOf rule d q, by simp⟩

/-- Titles without a whale in them. A form of the word is looked for in spite of the comparator. -/
theorem clauseQuery_notEqual_titles :
    let c : Compiler := ⟨.books, .standard, .standard, .standard⟩
    (∃ r, c.clauseQuery "book" ⟨"title", "<>", "whale", []⟩ = .ok r ∧
        ∀ rule d, r.finds rule d = !d.fulltext ["title.*"] "whale" .all) ∧
      c.clauseQuery "book" ⟨"title", "<>", "whal*", []⟩ =
        .ok (.wildcard "plain_title" "whal*") := by
  intro c
  have hvalue : ∀ t, target? .books "book" (Catalog.books.resolveAlias "book" "title") = some t →
      ∀ term, c.normalizedValue "book" t term = .ok (.text term) := by
    rintro t ⟨⟩ term
    rfl
  constructor
  · obtain ⟨t, v, r, ht, hv, hr, hfinds, -⟩ := clauseQuery_notEqual c rfl "book" "title" "whale"
      (.fulltext ["title.*"] "whale" .all) (by decide) (by decide +kernel)
    obtain rfl := Except.ok.inj ((hvalue t ht "whale").symm.trans hv)
    exact ⟨r, hr, hfinds (by decide)⟩
  · obtain ⟨t, v, r, ht, hv, hr, -, hsame⟩ := clauseQuery_notEqual c rfl "book" "title" "whal*"
      (.wildcard "plain_title" "whal*") (by decide) (by decide +kernel)
    obtain rfl := Except.ok.inj ((hvalue t ht "whal*").symm.trans hv)
    obtain rfl := hsame (by decide)
    exact hr

/-- Inequality is not the complement of equality for all values: the forms of a word are found by
either comparator. -/
theorem not_forall_notEqual_complement :
    ¬ ∀ (c : Compiler) (resource index term : String) (q : Query), c.dispatch = .standard →
      isMatchAll ⟨index, "=", term, []⟩ = false →
      c.clauseQuery resource ⟨index, "=", term, []⟩ = .ok q →
      ∃ r, c.clauseQuery resource ⟨index, "<>", term, []⟩ = .ok r ∧
        ∃ rule, ∀ d, r.finds rule d = !q.finds rule d := by
  intro h
  let c : Compiler := ⟨.books, .standard, .standard, .standard⟩
  have hquery : ∀ comparator ∈ ["=", "<>"],
      c.clauseQuery "book" ⟨"title", comparator, "whal*", []⟩ =
        .ok (.wildcard "plain_title" "whal*") := by
    decide +kernel
  obtain ⟨r, hr, rule, hfinds⟩ :=
    h c "book" "title" "whal*" _ rfl (by decide) (hquery "=" (by simp))
  obtain rfl := Except.ok.inj (hr.symm.trans (hquery "<>" (by simp)))
  have hwhale : false = true := hfinds whaleNovel
  cases hwhale

end Compiler

end CatalogSearch
