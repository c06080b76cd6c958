import CatalogSearch.Proofs.Facet.Selection

/-!
How a facet divides the filters of a query. These are the filters at the root of the query and those
of boolean queries with a weight among the clauses that have to match. A filter that only says which
values a field may have gives its values to the facet of the field; every other filter narrows what
the facet counts. The size of the facet is divided in turn: the chosen values come first, and the
others share the room that is left, so that the two sizes are together the one that was asked for.
-/

namespace CatalogSearch

namespace Query

/-! ### The filters of a query -/

/-- What a clause that has to match brings to the filters of a query: the filters of a boolean query
with a weight, and none otherwise. -/
inductive Brings : Query → List Query → Prop where
  | weighted (must should mustNot filter : List Query) (boost : Decimal) :
      Brings (scored (bool must should mustNot filter) boost) filter
  | none {q : Query}
      (h : ∀ must should mustNot filter boost,
        q ≠ scored (bool must should mustNot filter) boost) : Brings q []

/-- The filters that narrow a query: those at the root of a boolean query, followed by what each of
its clauses that have to match brings. -/
inductive NarrowedBy : Query → List Query → Prop where
  | bool {must : List Query} {brought : List (List Query)} (should mustNot filter : List Query)
      (h : List.Forall₂ Brings must brought) :
      NarrowedBy (bool must should mustNot filter) (filter ++ brought.flatten)
  | none {q : Query} (h : ∀ must should mustNot filter, q ≠ bool must should mustNot filter) :
      NarrowedBy q []

theorem brings_iff {q : Query} {filters : List Query} :
    q.Brings filters ↔ q.scoredFilters = filters := by
  constructor
  · intro h
    cases h with
    | weighted => rfl
    | none h =>
        unfold scoredFilters
        split
        · exact absurd rfl (h _ _ _ _ _)
        · rfl
  · rintro rfl
    unfold scoredFilters
    split
    next => exact .weighted _ _ _ _ _
    next h => exact .none h

theorem forall₂_brings_iff {must : List Query} {brought : List (List Query)} :
    List.Forall₂ Brings must brought ↔ must.map scoredFilters = brought := by
  have hbrings : Brings = fun q filters => q.scoredFilters = filters :=
    funext₂ fun _ _ => propext brings_iff
  have hmap : List.Forall₂ (fun q filters => q.scoredFilters = filters) must brought ↔
      List.Forall₂ Eq (must.map scoredFilters) brought :=
    List.forall₂_map_left_iff.symm
  rw [hbrings, hmap, List.forall₂_eq_eq_eq]

theorem narrowedBy_iff {q : Query} {filters : List Query} :
    q.NarrowedBy filters ↔ q.scopedFilters = filters := by
  constructor
  · intro h
    cases h with
    | bool should mustNot filter h =>
        rw [scopedFilters, List.flatMap_def, forall₂_brings_iff.1 h]
    | none h =>
        unfold scopedFilters
        split
        · exact absurd rfl (h _ _ _ _)
        · rfl
  · rintro rfl
    unfold scopedFilters
    split
    next =>
      rw [List.flatMap_def]
      exact .bool _ _ _ (forall₂_brings_iff.2 rfl)
    next h => exact .none h

/-! ### The filters that choose values -/

/-- The values of a field between which a query chooses: it is a term on the field, or nothing but a
choice between such terms. -/
inductive Chooses (field : String) : Query → List Value → Prop where
  | term (v : Value) : Chooses field (term field v) [v]
  | choice (v : Value) (vs : List Value) :
      Chooses field (bool [] ((v :: vs).map (Query.term field)) [] []) (v :: vs)

/-- Whether a query chooses between values of a field. -/
def ChoosesFrom (field : String) (q : Query) : Prop := ∃ vs, Chooses field q vs

variable {field : String} {q : Query} {vs : List Value}

theorem Chooses.selectedValues (h : q.Chooses field vs) : q.selectedValues field = vs := by
  cases h with
  | term v => exact if_pos rfl
  | choice v vs => exact selectedValues_choice field v vs

theorem Chooses.ne_nil (h : q.Chooses field vs) : vs ≠ [] := by
  cases h <;> exact List.cons_ne_nil _ _

theorem chooses_selectedValues (h : q.selectedValues field ≠ []) :
    q.Chooses field (q.selectedValues field) := by
  cases q with
  | term other v =>
      by_cases hfield : other = field
      · subst hfield
        have hvalues : (Query.term other v).selectedValues other = [v] := if_pos rfl
        rw [hvalues]
        exact .term v
      · exact absurd (if_neg hfield) h
  | bool must should mustNot filter =>
      by_cases hfield : (bool must should mustNot filter).disjunctionField? = some field
      · obtain ⟨v, vs, hq⟩ := disjunctionField?_eq_some.1 hfield
        rw [hq, selectedValues_choice]
        exact .choice v vs
      · exact absurd (if_neg hfield) h
  | _ => exact absurd rfl h

theorem selectedValues_ne_nil_iff : q.selectedValues field ≠ [] ↔ q.ChoosesFrom field := by
  constructor
  · intro h
    exact ⟨_, chooses_selectedValues h⟩
  · rintro ⟨vs, h⟩
    rw [h.selectedValues]
    exact h.ne_nil

instance (field : String) (q : Query) : Decidable (q.ChoosesFrom field) :=
  decidable_of_iff _ selectedValues_ne_nil_iff

theorem isEmpty_selectedValues_eq_decide (field : String) (q : Query) :
    (q.selectedValues field).isEmpty = decide (¬ q.ChoosesFrom field) := by
  rw [Bool.eq_iff_iff, decide_eq_true_iff, ← selectedValues_ne_nil_iff, not_not,
    List.isEmpty_iff]

theorem flatMap_selectedValues (field : String) (qs : List Query) :
    qs.flatMap (selectedValues field) =
      (qs.filter (ChoosesFrom field)).flatMap (selectedValues field) := by
  induction qs with
  | nil => rfl
  | cons q qs ih =>
      by_cases h : q.ChoosesFrom field
      · rw [List.filter_cons_of_pos (by simpa using h), List.flatMap_cons, List.flatMap_cons, ih]
      · have hnone : q.selectedValues field = [] := by
          by_contra hne
          exact h (selectedValues_ne_nil_iff.1 hne)
        rw [List.filter_cons_of_neg (by simpa using h), List.flatMap_cons, hnone, ih,
          List.nil_append]

theorem forall₂_chooses (field : String) (qs : List Query) :
    List.Forall₂ (Chooses field) (qs.filter (ChoosesFrom field))
      ((qs.filter (ChoosesFrom field)).map (selectedValues field)) := by
  rw [List.forall₂_map_right_iff, List.forall₂_same]
  intro q hq
  have hchooses : q.ChoosesFrom field := by simpa using (List.mem_filter.1 hq).2
  exact chooses_selectedValues (selectedValues_ne_nil_iff.2 hchooses)

end Query

namespace FacetScope

theorem selected_ofQuery (field : String) (q : Query) :
    ∃ choices, List.Forall₂ (Query.Chooses field)
        (q.scopedFilters.filter (Query.ChoosesFrom field)) choices ∧
      (ofQuery field q).selected = choices.flatten.eraseDups := by
  refine ⟨_, Query.forall₂_chooses field q.scopedFilters, ?_⟩
  have hselected : (ofQuery field q).selected =
      firstOccurrences (q.scopedFilters.flatMap (Query.selectedValues field)) := rfl
  rw [hselected, firstOccurrences_eq_eraseDups, Query.flatMap_selectedValues, List.flatMap_def]

theorem remaining_ofQuery (field : String) (q : Query) :
    (ofQuery field q).remaining = q.scopedFilters.filter fun g => ¬ g.ChoosesFrom field := by
  simp only [ofQuery, Query.isEmpty_selectedValues_eq_decide]

end FacetScope

namespace FacetRequest

/-- The aggregations that count the values of a facet, given those that are selected. The selected
values are counted apart, and the others as far as the size leaves room beside them. -/
inductive Counts (r : FacetRequest) (field : String) (selected : List Value) :
    List Aggregation → Prop where
  | all (hnone : selected = []) : Counts r field selected [.terms r.name field r.size [] []]
  | selectedOnly (hsome : 1 ≤ selected.length) {n : Nat} (hsize : r.size = some n)
      (hfull : n ≤ selected.length) :
      Counts r field selected
        [.terms ("selected_" ++ r.name) field (some selected.length) selected []]
  | shared (hsome : 1 ≤ selected.length) {rest : Nat} (hrest : 1 ≤ rest)
      (hsize : r.size = some (rest + selected.length)) :
      Counts r field selected
        [.terms r.name field (some rest) [] selected,
          .terms ("selected_" ++ r.name) field (some selected.length) selected []]
  | unbounded (hsome : 1 ≤ selected.length) (hsize : r.size = none) :
      Counts r field selected
        [.terms r.name field none [] selected,
          .terms ("selected_" ++ r.name) field (some selected.length) selected []]

theorem counts_termAggregations (r : FacetRequest) (field : String) (selected : List Value) :
    r.Counts field selected (r.termAggregations field selected) := by
  by_cases hnone : selected = []
  · have hall : r.termAggregations field selected = [.terms r.name field r.size [] []] := by
      rw [hnone]
      rfl
    rw [hall]
    exact .all hnone
  · have hsome : 1 ≤ selected.length := List.length_pos_iff.2 hnone
    rw [termAggregations_of_ne_nil hnone]
    cases hsize : r.size with
    | none => exact .unbounded hsome hsize
    | some n =>
        by_cases hfull : n ≤ selected.length
        · dsimp only
          rw [if_pos hfull]
          exact .selectedOnly hsome hsize hfull
        · -- The size is greater than the number of selected values, so the difference is exact.
          dsimp only
          rw [if_neg hfull]
          apply Counts.shared hsome
          · omega
          · rw [hsize, Nat.sub_add_cancel (Nat.le_of_not_le hfull)]

theorem scopedAggregations_eq (r : FacetRequest) (field : String) (s : FacetScope) :
    r.scopedAggregations field s =
      if s.remaining = [] then r.termAggregations field s.selected
      else [.filter r.name s.remaining (r.termAggregations field s.selected)] := by
  simp only [scopedAggregations, List.isEmpty_iff]

/-- **A facet divides the filters of a query and its own size.** For a facet on a field that facets
may count, the filters of the query that choose between values of the field give these values, each
once and in the order in which they are first named, and all other filters, in their order, narrow
what is counted, if there are any. Without such values everything is counted up to the size that is
asked for. Otherwise the chosen values are counted apart, and the others only where there is no size
or one greater than the number of chosen values, of which it is the sum with their own size. -/
theorem aggregations_divide (k : Catalog) (resource : String) (q : Query) (r : FacetRequest)
    (f : Field)
    (hf : k.field? resource ((k.resolveGroup resource r.name).head?.getD r.name) = some f)
    (hfacet : f.has .facet = true) :
    ∃ filters choices counts,
      q.NarrowedBy filters ∧
      List.Forall₂ (Query.Chooses f.path) (filters.filter (Query.ChoosesFrom f.path)) choices ∧
      r.Counts f.path choices.flatten.eraseDups counts ∧
      let remaining := filters.filter fun g => ¬ g.ChoosesFrom f.path
      let divided := if remaining = [] then counts else [.filter r.name remaining counts]
      aggregations k resource q r = .ok divided ∧
      ∀ facet, parse facet = .ok r → k.facetAggregations resource q [facet] = .ok divided := by
  obtain ⟨choices, hchoices, hselected⟩ := FacetScope.selected_ofQuery f.path q
  have hcounts := r.counts_termAggregations f.path choices.flatten.eraseDups
  refine ⟨_, choices, _, Query.narrowedBy_iff.2 rfl, hchoices, hcounts, ?_⟩
  intro remaining divided
  have haggregations : aggregations k resource q r = .ok divided := by
    refine bind_eq_ok_iff.2 ⟨f.path, field_eq_ok hf hfacet, ?_⟩
    rw [scopedAggregations_eq, FacetScope.remaining_ofQuery, hselected]
    rfl
  refine ⟨haggregations, ?_⟩
  intro facet hparse
  exact Catalog.facetAggregations_singleton hparse haggregations

/-- Five genres of books of which there are two copies. Novels are chosen twice, at the root and by
the second filter of a query with a weight, and count once, so that three other genres have room.
Dramas are not chosen, since the query that filters by them has no weight. -/
theorem aggregations_divide_genres :
    let novel : Value := .text "novel"
    let poem : Value := .text "poem"
    let copies : Query := .term "copies" (.long 2)
    let genres : Query := .bool [] [.term "genre" novel, .term "genre" poem] [] []
    let dramas : Query := .bool [] [] [] [.term "genre" (.text "drama")]
    let q : Query :=
      .bool [.scored (.bool [] [] [] [copies, genres]) ⟨2, 0⟩, dramas] [] []
        [.term "genre" novel]
    Catalog.field? .books "book" "genre" =
        some ⟨"genre", [.filter, .facet], false, none, .keyword, none⟩ ∧
      Catalog.facetAggregations .books "book" q ["genre:5"] =
        .ok [.filter "genre" [copies]
          [.terms "genre" "genre" (some 3) [] [novel, poem],
            .terms "selected_genre" "genre" (some 2) [novel, poem] []]] := by
  intro novel poem copies genres dramas q
  have hf : Catalog.field? .books "book" "genre" =
      some ⟨"genre", [.filter, .facet], false, none, .keyword, none⟩ := by
    decide
  obtain ⟨filters, choices, counts, hnarrowed, hchoices, hcounts, -, hdivided⟩ :=
    aggregations_divide .books "book" q ⟨"genre", some 5⟩ _ hf (by decide)
  obtain rfl : [.term "genre" novel, copies, genres] = filters := Query.narrowedBy_iff.1 hnarrowed
  have hfilters : [.term "genre" novel, copies, genres].filter (Query.ChoosesFrom "genre") =
      [.term "genre" novel, genres] := by
    decide
  rw [hfilters] at hchoices
  obtain ⟨first, _, hfirst, hrest, rfl⟩ := List.forall₂_cons_left_iff.1 hchoices
  obtain ⟨second, _, hsecond, hnil, rfl⟩ := List.forall₂_cons_left_iff.1 hrest
  obtain rfl := List.forall₂_nil_left_iff.1 hnil
  obtain rfl := hfirst.selectedValues
  obtain rfl := hsecond.selectedValues
  have hselected : [Query.selectedValues "genre" (.term "genre" novel),
      Query.selectedValues "genre" genres].flatten.eraseDups = [novel, poem] := by
    decide
  rw [hselected] at hcounts
  refine ⟨hf, (hdivided "genre:5" (by decide)).trans ?_⟩
  cases hcounts with
  | all hnone => cases hnone
  | selectedOnly _ hsize hfull =>
      obtain rfl := Option.some.inj hsize
      exact absurd hfull (by decide)
  | @shared _ rest _ hsize =>
      obtain rfl : rest = 3 := Nat.add_right_cancel (Option.some.inj hsize).symm
      rfl
  | unbounded _ hsize => cases hsize

end FacetRequest

end CatalogSearch
