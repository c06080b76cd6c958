import CatalogSearch.Proofs.Query.Promotion

/-!
The shape of compiled queries. Before promotion a boolean query either offers a choice or makes
demands and is never empty, at any depth; this is what every step of the compiler keeps. Promotion
then adds filters at the root and nowhere else. The shape after promotion is stated for all parts of
a query, without reference to how the query came about.
-/

namespace CatalogSearch.Query

/-- The queries that a query is made of. -/
def clauses : Query → List Query
  | bool must should mustNot filter => must ++ should ++ mustNot ++ filter
  | scored q _ => [q]
  | _ => []

/-- A query that stands somewhere in another one, or is that one. -/
inductive Part (p : Query) : Query → Prop where
  | whole : Part p p
  | clause {q c : Query} (hc : c ∈ q.clauses) (h : Part p c) : Part p q

theorem Part.eq_or_clause {p q : Query} (h : p.Part q) : p = q ∨ ∃ c ∈ q.clauses, p.Part c := by
  cases h with
  | whole => exact Or.inl rfl
  | clause hc h => exact Or.inr ⟨_, hc, h⟩

/-- A query without weights and filters whose boolean queries, at any depth, either offer a choice
or make demands. -/
inductive Unmixed : Query → Prop where
  | matchAll : Unmixed matchAll
  | term (field : String) (v : Value) : Unmixed (term field v)
  | range (r : Range) : Unmixed (range r)
  | wildcard (field pattern : String) : Unmixed (wildcard field pattern)
  | fulltext (fields : List String) (v : String) (mode : MatchMode) :
      Unmixed (fulltext fields v mode)
  | choice (should : List Query) (hne : should ≠ []) (hshould : ∀ c ∈ should, Unmixed c) :
      Unmixed (bool [] should [] [])
  | demands (must mustNot : List Query) (hne : must ++ mustNot ≠ [])
      (hmust : ∀ c ∈ must, Unmixed c) (hmustNot : ∀ c ∈ mustNot, Unmixed c) :
      Unmixed (bool must [] mustNot [])

theorem Unmixed.clause {q c : Query} (h : q.Unmixed) (hc : c ∈ q.clauses) : c.Unmixed := by
  cases h with
  | choice should _ hshould =>
      simp only [clauses, List.nil_append, List.append_nil] at hc
      exact hshould c hc
  | demands must mustNot _ hmust hmustNot =>
      simp only [clauses, List.append_nil] at hc
      rcases List.mem_append.1 hc with hc | hc
      · exact hmust c hc
      · exact hmustNot c hc
  | _ => cases hc

theorem Unmixed.part {p q : Query} (h : q.Unmixed) (hp : p.Part q) : p.Unmixed := by
  induction hp with
  | whole => exact h
  | clause hc _ ih => exact ih (h.clause hc)

theorem not_unmixed_scored (q : Query) (boost : Decimal) : ¬ (scored q boost).Unmixed := by
  intro h
  cases h

variable {must should mustNot filter : List Query}

theorem Unmixed.filter_eq_nil (h : (bool must should mustNot filter).Unmixed) : filter = [] := by
  cases h <;> rfl

theorem Unmixed.clauses_ne_nil (h : (bool must should mustNot filter).Unmixed) :
    (bool must should mustNot filter).clauses ≠ [] := by
  cases h with
  | choice _ hne _ => simpa [clauses] using hne
  | demands _ _ hne _ _ => simpa [clauses] using hne

theorem Unmixed.choice_alone (h : (bool must should mustNot filter).Unmixed) (hne : should ≠ []) :
    must = [] ∧ mustNot = [] := by
  cases h with
  | choice => exact ⟨rfl, rfl⟩
  | demands => exact absurd rfl hne

/-- The shape of a query after promotion: no weights and no empty boolean query anywhere, a choice
always alone, filters at the root only, and there exactly what can be a filter. -/
structure Promoted (k : Catalog) (resource : String) (q : Query) : Prop where
  unscored : ∀ c boost, ¬ (scored c boost).Part q
  nonempty : ∀ must should mustNot filter, (bool must should mustNot filter).Part q →
    (bool must should mustNot filter).clauses ≠ []
  choice_alone : ∀ must should mustNot filter, (bool must should mustNot filter).Part q →
    should ≠ [] → must = [] ∧ mustNot = [] ∧ filter = []
  unfiltered : ∀ c ∈ q.clauses, ∀ must should mustNot filter,
    (bool must should mustNot filter).Part c → filter = []
  filters : ∀ must should mustNot filter, q = bool must should mustNot filter →
    (∀ c ∈ filter, c.FilterClause k resource) ∧ ∀ c ∈ must, ¬ c.FilterClause k resource

variable {k : Catalog} {resource : String}

/-- Only the root of a promoted query has to be looked at if its clauses are unmixed. -/
theorem Promoted.of_bool (hclauses : ∀ c ∈ (bool must should mustNot filter).clauses, c.Unmixed)
    (hne : (bool must should mustNot filter).clauses ≠ [])
    (halone : should ≠ [] → must = [] ∧ mustNot = [] ∧ filter = [])
    (hfilter : ∀ c ∈ filter, c.FilterClause k resource)
    (hmust : ∀ c ∈ must, ¬ c.FilterClause k resource) :
    (bool must should mustNot filter).Promoted k resource where
  unscored c boost hp := by
    rcases hp.eq_or_clause with hp | ⟨root, hroot, hp⟩
    · cases hp
    · exact not_unmixed_scored c boost ((hclauses root hroot).part hp)
  nonempty _ _ _ _ hp := by
    rcases hp.eq_or_clause with hp | ⟨root, hroot, hp⟩
    · rw [hp]
      exact hne
    · exact ((hclauses root hroot).part hp).clauses_ne_nil
  choice_alone _ _ _ _ hp hshould := by
    rcases hp.eq_or_clause with hp | ⟨root, hroot, hp⟩
    · obtain ⟨rfl, rfl, rfl, rfl⟩ := bool.inj hp
      exact halone hshould
    · have h := (hclauses root hroot).part hp
      exact ⟨(h.choice_alone hshould).1, (h.choice_alone hshould).2, h.filter_eq_nil⟩
  unfiltered c hc _ _ _ _ hp := ((hclauses c hc).part hp).filter_eq_nil
  filters _ _ _ _ hq := by
    obtain ⟨rfl, rfl, rfl, rfl⟩ := bool.inj hq
    exact ⟨hfilter, hmust⟩

theorem Promoted.of_leaf {q : Query} (h : q.Unmixed)
    (hleaf : ∀ must should mustNot filter, q ≠ bool must should mustNot filter) :
    q.Promoted k resource where
  unscored c boost hp := not_unmixed_scored c boost (h.part hp)
  nonempty _ _ _ _ hp := (h.part hp).clauses_ne_nil
  choice_alone _ _ _ _ hp hshould :=
    ⟨((h.part hp).choice_alone hshould).1, ((h.part hp).choice_alone hshould).2,
      (h.part hp).filter_eq_nil⟩
  unfiltered _ hc _ _ _ _ hp := ((h.clause hc).part hp).filter_eq_nil
  filters _ _ _ _ hq := absurd hq (hleaf _ _ _ _)

/-- Promotion only moves clauses of a query that is no filter as a whole. -/
theorem mem_clauses_promote {q c : Query} (h : ¬ q.FilterClause k resource) :
    c ∈ (q.promote k resource).clauses ↔ c ∈ q.clauses := by
  cases q with
  | bool must should mustNot filter =>
      have hmem := (kept_append_moved_perm k resource must).mem_iff (a := c)
      rw [promote_bool h]
      simp only [clauses, List.mem_append] at hmem ⊢
      rw [← hmem]
      grind
  | _ => rw [promote_leaf h (by simp)]

/-- What promotion makes of an unmixed query. -/
theorem promoted_promote {q : Query} (h : q.Unmixed) :
    (q.promote k resource).Promoted k resource := by
  by_cases hfc : q.FilterClause k resource
  · rw [promote_of_filterClause hfc]
    refine .of_bool ?_ (by simp [clauses]) (by simp) (by simpa using hfc) (by simp)
    intro c hc
    obtain rfl : c = q := by simpa [clauses] using hc
    exact h
  · cases q with
    | bool must should mustNot filter =>
        have hclauses := fun c => mem_clauses_promote (c := c) hfc
        obtain rfl := h.filter_eq_nil
        rw [promote_bool hfc, List.nil_append] at hclauses ⊢
        refine .of_bool (fun c hc => h.clause ((hclauses c).1 hc)) ?_ ?_ ?_ ?_
        · obtain ⟨c, hc⟩ := List.exists_mem_of_ne_nil _ h.clauses_ne_nil
          exact List.ne_nil_of_mem ((hclauses c).2 hc)
        · intro hshould
          obtain ⟨rfl, rfl⟩ := h.choice_alone hshould
          exact ⟨rfl, rfl, rfl⟩
        · intro c hc
          simpa using (List.mem_filter.1 hc).2
        · intro c hc
          simpa using (List.mem_filter.1 hc).2
    | _ =>
        rw [promote_leaf hfc (by simp)]
        exact .of_leaf h (by simp)

end CatalogSearch.Query
