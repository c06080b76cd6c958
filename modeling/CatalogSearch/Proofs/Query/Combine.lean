import CatalogSearch.Proofs.Query.Shape
import CatalogSearch.Query.Combine

/-!
Connectives on queries. Each of the three connectives keeps queries unmixed and means what its name
says. For a conjunction that holds of all queries but two ranges of one field, which have to be
opposed; a choice may take in another clause only because no other clauses stand beside it.
-/

namespace CatalogSearch

namespace Range

/-- Two ranges of which one has the lower end only and the other one the upper end only. -/
def Opposed (r s : Range) : Prop :=
  (r.isLowerOnly = true ∧ s.isUpperOnly = true) ∨ (r.isUpperOnly = true ∧ s.isLowerOnly = true)

instance (r s : Range) : Decidable (r.Opposed s) :=
  inferInstanceAs (Decidable (_ ∨ _))

theorem isLowerOnly_iff {r : Range} :
    r.isLowerOnly = true ↔ ∃ v, r.lower = some v ∧ r.upper = none := by
  rw [isLowerOnly, Bool.and_eq_true, Option.isSome_iff_exists, Option.isNone_iff_eq_none,
    exists_and_right]

theorem isUpperOnly_iff {r : Range} :
    r.isUpperOnly = true ↔ ∃ v, r.lower = none ∧ r.upper = some v := by
  rw [isUpperOnly, Bool.and_eq_true, Option.isSome_iff_exists, Option.isNone_iff_eq_none,
    exists_and_left]

/-- Opposed ranges of one field leave no end out when they become one range. -/
theorem admits_collapse (d : Document) {r s : Range} (hfield : r.field = s.field)
    (h : r.Opposed s) : (r.collapse s).admits d = (r.admits d && s.admits d) := by
  rcases h with ⟨hr, hs⟩ | ⟨hr, hs⟩
  · obtain ⟨v, hlower, hupper⟩ := isLowerOnly_iff.1 hr
    obtain ⟨w, hlower', hupper'⟩ := isUpperOnly_iff.1 hs
    simp [admits, collapse, lowerFirst, hlower, hupper, hlower', hupper', hfield]
  · obtain ⟨v, hlower, hupper⟩ := isUpperOnly_iff.1 hr
    obtain ⟨w, hlower', hupper'⟩ := isLowerOnly_iff.1 hs
    simp [admits, collapse, lowerFirst, hlower, hupper, hlower', hupper', hfield, Bool.and_comm]

end Range

namespace Query

/-! ### The cases of a connective -/

theorem joinMust_cases (q r : Query) :
    (∃ must should mustNot filter, must ≠ [] ∧ q = bool must should mustNot filter ∧
      q.joinMust r = bool (must ++ [r]) should mustNot filter) ∨
    q.joinMust r = bool [q, r] [] [] [] := by
  unfold joinMust
  split
  · next a b must should mustNot filter =>
      exact Or.inl ⟨a :: b :: must, should, mustNot, filter, List.cons_ne_nil _ _, rfl, rfl⟩
  · exact Or.inr rfl

theorem joinShould_cases (q r : Query) :
    (∃ must should mustNot filter, should ≠ [] ∧ q = bool must should mustNot filter ∧
      q.joinShould r = bool must (should ++ [r]) mustNot filter) ∨
    q.joinShould r = bool [] [q, r] [] [] := by
  unfold joinShould
  split
  · next must a b should mustNot filter =>
      exact Or.inl ⟨must, a :: b :: should, mustNot, filter, List.cons_ne_nil _ _, rfl, rfl⟩
  · exact Or.inr rfl

theorem conjunction_cases (q r : Query) :
    (∃ s t, q = range s ∧ r = range t ∧ s.field = t.field ∧
      q.conjunction r = range (s.collapse t)) ∨
    q.conjunction r = q.joinMust r := by
  unfold conjunction
  split
  · next s t =>
      by_cases hfield : s.field = t.field
      · exact Or.inl ⟨s, t, rfl, rfl, hfield, if_pos hfield⟩
      · exact Or.inr (if_neg hfield)
  · exact Or.inr rfl

/-! ### Connectives keep queries unmixed -/

theorem unmixed_joinMust {q r : Query} (hq : q.Unmixed) (hr : r.Unmixed) :
    (q.joinMust r).Unmixed := by
  rcases joinMust_cases q r with ⟨must, should, mustNot, filter, hne, rfl, h⟩ | h
  · rw [h]
    cases hq with
    | choice => exact absurd rfl hne
    | demands _ _ _ hmust hmustNot =>
        have hall := List.forall_mem_append.2 ⟨hmust, List.forall_mem_singleton.2 hr⟩
        exact .demands _ _ (by simp) hall hmustNot
  · rw [h]
    have hall := List.forall_mem_cons.2 ⟨hq, List.forall_mem_singleton.2 hr⟩
    exact .demands _ _ (by simp) hall (by simp)

theorem unmixed_joinShould {q r : Query} (hq : q.Unmixed) (hr : r.Unmixed) :
    (q.joinShould r).Unmixed := by
  rcases joinShould_cases q r with ⟨must, should, mustNot, filter, hne, rfl, h⟩ | h
  · rw [h]
    cases hq with
    | choice _ _ hshould =>
        have hall := List.forall_mem_append.2 ⟨hshould, List.forall_mem_singleton.2 hr⟩
        exact .choice _ (by simp) hall
    | demands => exact absurd rfl hne
  · rw [h]
    have hall := List.forall_mem_cons.2 ⟨hq, List.forall_mem_singleton.2 hr⟩
    exact .choice _ (by simp) hall

theorem unmixed_conjunction {q r : Query} (hq : q.Unmixed) (hr : r.Unmixed) :
    (q.conjunction r).Unmixed := by
  rcases conjunction_cases q r with ⟨s, t, -, -, -, h⟩ | h
  · rw [h]
    exact .range _
  · rw [h]
    exact unmixed_joinMust hq hr

theorem unmixed_difference {q r : Query} (hq : q.Unmixed) (hr : r.Unmixed) :
    (q.difference r).Unmixed := by
  rw [difference]
  exact .demands _ _ (by simp) (List.forall_mem_singleton.2 hq) (List.forall_mem_singleton.2 hr)

/-! ### What connectives mean -/

variable (rule : ChoiceRule) (d : Document)

theorem finds_joinMust (q r : Query) :
    (q.joinMust r).finds rule d = (q.finds rule d && r.finds rule d) := by
  rcases joinMust_cases q r with ⟨must, should, mustNot, filter, hne, rfl, h⟩ | h
  · -- Demands stand before and after, so the choice beside them is read in the same way.
    have hbinds : rule.binds (must ++ [r]) filter = rule.binds must filter := by
      cases rule with
      | always => rfl
      | withoutDemands =>
          have hne' : must ++ [r] ≠ [] := by simp
          simp only [ChoiceRule.binds, List.isEmpty_eq_false_iff.2 hne,
            List.isEmpty_eq_false_iff.2 hne']
    rw [h, finds_bool, finds_bool, hbinds, List.all_append]
    simp only [List.all_cons, List.all_nil, Bool.and_true]
    ac_rfl
  · rw [h, finds_demands]
    simp

/-- A choice takes in one more clause. Beside demands this would be wrong: a document would have to
meet them for the new clause to count. -/
theorem finds_joinShould {q : Query} (hq : q.Unmixed) (r : Query) :
    (q.joinShould r).finds rule d = (q.finds rule d || r.finds rule d) := by
  rcases joinShould_cases q r with ⟨must, should, mustNot, filter, hne, rfl, h⟩ | h
  · obtain rfl := hq.filter_eq_nil
    obtain ⟨rfl, rfl⟩ := hq.choice_alone hne
    rw [h, finds_choice rule d _ hne, finds_choice rule d _ (by simp), List.any_append]
    simp
  · rw [h, finds_choice rule d _ (by simp)]
    simp

theorem finds_conjunction {q r : Query}
    (hopposed : ∀ s t, q = range s → r = range t → s.field = t.field → s.Opposed t) :
    (q.conjunction r).finds rule d = (q.finds rule d && r.finds rule d) := by
  rcases conjunction_cases q r with ⟨s, t, rfl, rfl, hfield, h⟩ | h
  · rw [h]
    exact Range.admits_collapse d hfield (hopposed s t rfl rfl hfield)
  · rw [h, finds_joinMust]

theorem finds_difference (q r : Query) :
    (q.difference r).finds rule d = (q.finds rule d && !r.finds rule d) := by
  rw [difference, finds_demands]
  simp

end Query

end CatalogSearch
