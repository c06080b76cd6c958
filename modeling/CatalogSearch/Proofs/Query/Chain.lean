import CatalogSearch.Proofs.Query.Combine

/-!
Chains of connectives that are nested to the left. A conjunction of several operands becomes one
flat list of clauses and a choice between values of one field one flat choice, whatever their
number. When all operands of a conjunction but one can be filters, promotion leaves the one beside
the others.
-/

namespace CatalogSearch

/-- Joins elements from left to right: those before an element, the element and those after it. -/
def leftNested {α : Type} (join : α → α → α) (before : List α) (a : α) (after : List α) : α :=
  match before with
  | [] => after.foldl join a
  | first :: rest => (rest ++ a :: after).foldl join first

namespace Query

variable {k : Catalog} {resource : String}

/-! ### Conjunctions -/

/-- A query that a conjunction takes in as one clause: it is no list of clauses that all have to
match itself. -/
def OneDemand (q : Query) : Prop :=
  ∀ a b must should mustNot filter, q ≠ bool (a :: b :: must) should mustNot filter

theorem oneDemand_choice (should : List Query) : (bool [] should [] []).OneDemand := by
  rintro a b must should' mustNot filter ⟨⟩

theorem oneDemand_of_clauses_eq_nil {q : Query} (h : q.clauses = []) : q.OneDemand := by
  rintro a b must should mustNot filter rfl
  cases h

theorem settled_of_clauses_eq_nil {q : Query} (h : q.clauses = [])
    (hq : ¬ q.FilterClause k resource) : q.Settled k resource where
  whole := hq
  clauses := by
    rintro must should mustNot filter rfl c hc
    have hmem : c ∈ (bool must should mustNot filter).clauses := by simp [Query.clauses, hc]
    rw [h] at hmem
    cases hmem

theorem FilterClause.oneDemand {q : Query} (h : q.FilterClause k resource) : q.OneDemand := by
  cases h with
  | term field v _ => rintro a b must should mustNot filter ⟨⟩
  | choice field v vs _ => exact oneDemand_choice _

theorem FilterClause.range?_eq_none {q : Query} (h : q.FilterClause k resource) :
    q.range? = none := by
  cases h <;> rfl

theorem joinMust_of_oneDemand {q : Query} (h : q.OneDemand) (r : Query) :
    q.joinMust r = bool [q, r] [] [] [] := by
  unfold joinMust
  split
  · exact absurd rfl (h _ _ _ _ _ _)
  · rfl

theorem conjunction_of_range?_eq_none {q r : Query} (h : q.range? = none ∨ r.range? = none) :
    q.conjunction r = q.joinMust r := by
  rcases conjunction_cases q r with ⟨s, t, rfl, rfl, -, -⟩ | hjoin
  · rcases h with h | h <;> cases h
  · exact hjoin

theorem foldl_conjunction_bool (a b : Query) (must should mustNot filter qs : List Query) :
    qs.foldl conjunction (bool (a :: b :: must) should mustNot filter) =
      bool (a :: b :: must ++ qs) should mustNot filter := by
  induction qs generalizing must with
  | nil => rw [List.foldl_nil, List.append_nil]
  | cons q qs ih =>
      have hstep : (bool (a :: b :: must) should mustNot filter).conjunction q =
          bool (a :: b :: (must ++ [q])) should mustNot filter := rfl
      rw [List.foldl_cons, hstep, ih]
      simp only [List.cons_append, List.append_assoc, List.nil_append]

theorem foldl_conjunction {q r : Query} (hq : q.OneDemand)
    (hrange : q.range? = none ∨ r.range? = none) (qs : List Query) :
    (r :: qs).foldl conjunction q = bool (q :: r :: qs) [] [] [] := by
  rw [List.foldl_cons, conjunction_of_range?_eq_none hrange, joinMust_of_oneDemand hq,
    foldl_conjunction_bool]
  rfl

/-- Clauses of which all but one can be filters stand in one list. -/
theorem leftNested_conjunction {before after : List Query} {q : Query}
    (hbefore : ∀ g ∈ before, g.FilterClause k resource)
    (hafter : ∀ g ∈ after, g.FilterClause k resource) (hq : q.OneDemand)
    (hne : before ++ after ≠ []) :
    leftNested conjunction before q after = bool (before ++ q :: after) [] [] [] := by
  cases before with
  | nil =>
      cases after with
      | nil => exact absurd rfl hne
      | cons g gs =>
          have hg := hafter g List.mem_cons_self
          exact foldl_conjunction hq (Or.inr hg.range?_eq_none) gs
  | cons g gs =>
      have hg := hbefore g List.mem_cons_self
      cases gs with
      | nil => exact foldl_conjunction hg.oneDemand (Or.inl hg.range?_eq_none) after
      | cons g' gs =>
          exact foldl_conjunction hg.oneDemand (Or.inl hg.range?_eq_none) (gs ++ q :: after)

/-! ### A clause beside filters -/

/-- A query beside filters; without filters it stands alone. -/
def beside (q : Query) (filters : List Query) : Query :=
  if filters.isEmpty then q else bool [q] [] [] filters

@[simp]
theorem beside_nil (q : Query) : q.beside [] = q := rfl

theorem beside_of_ne_nil (q : Query) {filters : List Query} (h : filters ≠ []) :
    q.beside filters = bool [q] [] [] filters := by
  rw [beside, List.isEmpty_eq_false_iff.2 h]
  rfl

@[simp]
theorem finds_beside (rule : ChoiceRule) (d : Document) (q : Query) (filters : List Query) :
    (q.beside filters).finds rule d = (q.finds rule d && filters.all (finds rule d)) := by
  by_cases h : filters = []
  · rw [h, beside_nil, List.all_nil, Bool.and_true]
  · rw [beside_of_ne_nil q h, finds_bool]
    simp

theorem not_filterClause_demands (must : List Query) :
    ¬ (bool must [] [] []).FilterClause k resource := by
  rintro ⟨⟩

/-- Promotion of a conjunction all of whose operands but one can be filters. -/
theorem promote_leftNested {before after : List Query} {q : Query}
    (hbefore : ∀ g ∈ before, g.FilterClause k resource)
    (hafter : ∀ g ∈ after, g.FilterClause k resource) (hq : q.OneDemand)
    (hsettled : q.Settled k resource) :
    (leftNested conjunction before q after).promote k resource = q.beside (before ++ after) := by
  by_cases hne : before ++ after = []
  · obtain ⟨rfl, rfl⟩ := List.append_eq_nil_iff.1 hne
    exact promote_eq_self hsettled
  · have hmoved : (before ++ q :: after).filter (fun c => c.FilterClause k resource) =
        before ++ after := by
      rw [List.filter_append, List.filter_cons_of_neg (by simpa using hsettled.whole),
        List.filter_eq_self.2 (by simpa using hbefore),
        List.filter_eq_self.2 (by simpa using hafter)]
    have hkept : (before ++ q :: after).filter (fun c => ¬ c.FilterClause k resource) = [q] := by
      rw [List.filter_append, List.filter_cons_of_pos (by simpa using hsettled.whole),
        List.filter_eq_nil_iff.2 (by simpa using hbefore),
        List.filter_eq_nil_iff.2 (by simpa using hafter), List.nil_append]
    rw [leftNested_conjunction hbefore hafter hq hne, promote_bool (not_filterClause_demands _),
      hmoved, hkept, beside_of_ne_nil q hne, List.nil_append]

/-! ### Choices between values -/

/-- The query for one of several values of a field. -/
def oneOf (field : String) (v : Value) (vs : List Value) : Query :=
  if vs.isEmpty then term field v else bool [] ((v :: vs).map (term field)) [] []

theorem FilterClause.oneOf {field : String} (h : k.Filterable resource field) (v : Value)
    (vs : List Value) : (oneOf field v vs).FilterClause k resource := by
  cases vs with
  | nil => exact .term field v h
  | cons w ws => exact .choice field v (w :: ws) h

theorem foldl_disjunction_bool (a b : Query) (must should mustNot filter qs : List Query) :
    qs.foldl disjunction (bool must (a :: b :: should) mustNot filter) =
      bool must (a :: b :: should ++ qs) mustNot filter := by
  induction qs generalizing should with
  | nil => rw [List.foldl_nil, List.append_nil]
  | cons q qs ih =>
      have hstep : (bool must (a :: b :: should) mustNot filter).disjunction q =
          bool must (a :: b :: (should ++ [q])) mustNot filter := rfl
      rw [List.foldl_cons, hstep, ih]
      simp only [List.cons_append, List.append_assoc, List.nil_append]

/-- A chain of choices between terms of one field is one choice. -/
theorem foldl_disjunction_term (field : String) (v : Value) (vs : List Value) :
    (vs.map (term field)).foldl disjunction (term field v) = oneOf field v vs := by
  cases vs with
  | nil => rfl
  | cons w ws =>
      have hstep : (term field v).disjunction (term field w) =
          bool [] [term field v, term field w] [] [] := rfl
      rw [List.map_cons, List.foldl_cons, hstep, foldl_disjunction_bool]
      rfl

end Query

end CatalogSearch
