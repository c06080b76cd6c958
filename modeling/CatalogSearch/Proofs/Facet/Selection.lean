import CatalogSearch.Proofs.Compiler.Chain
import CatalogSearch.Proofs.Compiler.Field
import CatalogSearch.Proofs.Facet.Merge

/-!
The selected values of a facet, from the expression to the aggregations. A choice between values of
a field is compiled to one filter, alone or beside a full-text clause on either side of it. A facet
on the field finds its values there again, each once and in their order, so it counts them apart
from the values that are not selected.
-/

namespace CatalogSearch

/-! ### Repetitions -/

/-- The elements seen so far stand in reverse in one of the two loops, by induction on those that
are left with the ones seen generalised. -/
theorem foldl_seen_eq_loop {α : Type} [DecidableEq α] (xs seen : List α) :
    xs.foldl (fun seen x => if x ∈ seen then seen else seen ++ [x]) seen.reverse =
      List.eraseDupsBy.loop (· == ·) xs seen := by
  induction xs generalizing seen with
  | nil => rfl
  | cons x xs ih =>
      rw [List.foldl_cons, List.eraseDupsBy.loop]
      by_cases hx : x ∈ seen
      · have hany : seen.any (x == ·) = true := by simpa using hx
        rw [if_pos (List.mem_reverse.2 hx), hany, ih]
      · have hany : seen.any (x == ·) = false := by
          rw [Bool.eq_false_iff]
          simpa using hx
        rw [if_neg (mt List.mem_reverse.1 hx), hany, ← List.reverse_cons, ih]

theorem firstOccurrences_eq_eraseDups {α : Type} [DecidableEq α] (xs : List α) :
    firstOccurrences xs = xs.eraseDups :=
  foldl_seen_eq_loop xs []

/-! ### The filters that a facet sees -/

namespace Query

theorem selectedValues_choice (field : String) (v : Value) (vs : List Value) :
    (bool [] ((v :: vs).map (term field)) [] []).selectedValues field = v :: vs := by
  have hvalues : ((v :: vs).map (term field)).filterMap termValue? = v :: vs := by
    rw [List.filterMap_map]
    exact List.filterMap_some
  exact (if_pos (disjunctionField?_choice field v vs)).trans hvalues

theorem selectedValues_oneOf (field : String) (v : Value) (vs : List Value) :
    (oneOf field v vs).selectedValues field = v :: vs := by
  cases vs with
  | nil => exact if_pos rfl
  | cons w ws => exact selectedValues_choice field v (w :: ws)

end Query

/-- A facet whose field a single filter chooses values of. -/
theorem FacetScope.ofQuery_oneOf {field : String} {q : Query} {v : Value} {vs : List Value}
    (h : q.scopedFilters = [.oneOf field v vs]) :
    FacetScope.ofQuery field q = ⟨(v :: vs).eraseDups, []⟩ := by
  rw [ofQuery, h, List.flatMap_singleton, Query.selectedValues_oneOf,
    firstOccurrences_eq_eraseDups, List.filter_cons_of_neg]
  · rfl
  · rw [Query.selectedValues_oneOf]
    exact Bool.false_ne_true

/-! ### The aggregations of a facet with selected values -/

namespace FacetRequest

theorem termAggregations_of_ne_nil {selected : List Value} (h : selected ≠ []) (r : FacetRequest)
    (field : String) :
    let chosen := .terms (selectedMark ++ r.name) field (some selected.length) selected []
    r.termAggregations field selected =
      match r.size with
      | none => [.terms r.name field none [] selected, chosen]
      | some n =>
        if n ≤ selected.length then [chosen]
        else [.terms r.name field (some (n - selected.length)) [] selected, chosen] := by
  have hempty : selected.isEmpty = false := List.isEmpty_eq_false_iff.2 h
  dsimp only [termAggregations]
  rw [hempty, if_neg Bool.false_ne_true]
  cases r.size <;> rfl

theorem field_eq_ok {k : Catalog} {resource : String} {r : FacetRequest} {f : Field}
    (hf : k.field? resource ((k.resolveGroup resource r.name).head?.getD r.name) = some f)
    (hfacet : f.has .facet = true) : r.field k resource = .ok f.path := by
  unfold field
  simp only [Catalog.fieldWith?, hf, Option.filter_some, if_pos hfacet]

theorem field_eq_path {k : Catalog} {resource : String} {f : Field}
    (hf : k.NamedByPath resource f) (hfacet : f.has .facet = true) (size : Option Nat) :
    field k resource ⟨f.path, size⟩ = .ok f.path := by
  apply field_eq_ok _ hfacet
  rw [hf.ungrouped]
  exact hf.described

end FacetRequest

theorem Catalog.facetAggregations_singleton {k : Catalog} {resource : String} {q : Query}
    {facet : String} {r : FacetRequest} {aggregations : List Aggregation}
    (hparse : FacetRequest.parse facet = .ok r)
    (haggregations : FacetRequest.aggregations k resource q r = .ok aggregations) :
    k.facetAggregations resource q [facet] = .ok aggregations := by
  have hasks : FacetRequest.Asks k resource q facet (r, aggregations) := ⟨hparse, haggregations⟩
  refine Catalog.facetAggregations_eq_ok_iff.2 ⟨[_], .cons hasks .nil, ?_⟩
  rw [List.flatMap_singleton]

/-- The facet of a field whose values a single filter chooses: no other filter narrows it. -/
theorem Catalog.facetAggregations_oneOf {k : Catalog} {resource : String} {f : Field}
    (hf : k.NamedByPath resource f) (hfacet : f.has .facet = true) {q : Query} {v : Value}
    {vs : List Value} (hq : q.scopedFilters = [.oneOf f.path v vs]) {facet : String}
    {size : Option Nat} (hparse : FacetRequest.parse facet = .ok ⟨f.path, size⟩) :
    k.facetAggregations resource q [facet] =
      .ok (FacetRequest.termAggregations ⟨f.path, size⟩ f.path (v :: vs).eraseDups) := by
  apply facetAggregations_singleton hparse
  refine bind_eq_ok_iff.2 ⟨_, FacetRequest.field_eq_path hf hfacet size, ?_⟩
  rw [FacetScope.ofQuery_oneOf hq]
  rfl

/-! ### From the expression to the aggregations -/

/-- The choice between texts of an index, nested to the left. -/
def Expression.choiceOf (index text : String) (texts : List String) : Expression :=
  (texts.map fun text => .clause ⟨index, "=", text, []⟩).foldl (.boolean .or)
    (.clause ⟨index, "=", text, []⟩)

namespace Compiler

open Expression (choiceOf)

variable {c : Compiler} {resource : String} {f : Field} {text : String} {texts : List String}

theorem expressionQuery_choiceOf (hd : c.dispatch = .standard)
    (hf : c.catalog.NamedByPath resource f) (hverbatim : f.Verbatim)
    (hall : Text.eqIgnoreAsciiCase f.path allRecordsIndex = false)
    (htexts : ∀ t ∈ text :: texts, '*' ∉ t.toList) :
    c.expressionQuery resource (choiceOf f.path text texts) =
      .ok (.oneOf f.path (.text text) (texts.map .text)) := by
  have hclause : ∀ t ∈ text :: texts,
      c.expressionQuery resource (.clause ⟨f.path, "=", t, []⟩) = .ok (.term f.path (.text t)) :=
    fun t ht => clauseQuery_equal hd hf hverbatim hall (htexts t ht)
  have hrest : List.Forall₂ (fun e q => c.expressionQuery resource e = .ok q)
      (texts.map fun t => .clause ⟨f.path, "=", t, []⟩)
      ((texts.map .text).map (.term f.path)) := by
    rw [List.map_map, List.forall₂_map_left_iff, List.forall₂_map_right_iff, List.forall₂_same]
    exact fun t ht => hclause t (List.mem_cons_of_mem _ ht)
  rw [choiceOf, expressionQuery_foldl rfl (hclause text List.mem_cons_self) hrest,
    Query.foldl_disjunction_term]

/-- A choice between values becomes one filter, alone and on either side of a full-text clause. -/
theorem scopedFilters_of_choiceOf (hd : c.dispatch = .standard)
    (hf : c.catalog.NamedByPath resource f) (hverbatim : f.Verbatim)
    (hfilter : f.has .filter = true)
    (hall : Text.eqIgnoreAsciiCase f.path allRecordsIndex = false)
    (htexts : ∀ t ∈ text :: texts, '*' ∉ t.toList) {other : Clause} {fields : List String}
    {words : String} {mode : MatchMode}
    (hother : c.clauseQuery resource other = .ok (.fulltext fields words mode)) :
    ∀ e ∈ [choiceOf f.path text texts, .boolean .and (.clause other) (choiceOf f.path text texts),
        .boolean .and (choiceOf f.path text texts) (.clause other)],
      ∃ s, c.compile resource e = .ok s ∧
        s.query.scopedFilters = [.oneOf f.path (.text text) (texts.map .text)] := by
  let choice := choiceOf f.path text texts
  let q := Query.oneOf f.path (.text text) (texts.map .text)
  have hchoice : c.expressionQuery resource choice = .ok q :=
    expressionQuery_choiceOf hd hf hverbatim hall htexts
  have hq : q.FilterClause c.catalog resource :=
    Query.FilterClause.oneOf (hf.filterable hfilter) _ _
  have hbeside : List.Forall₂ (fun e q => c.expressionQuery resource e = .ok q) [choice] [q] :=
    .cons hchoice .nil
  have hqs : ∀ g ∈ [q], g.FilterClause c.catalog resource := by simpa using hq
  have hnone : ∀ g ∈ ([] : List Query), g.FilterClause c.catalog resource := by simp
  have hclause : c.expressionQuery resource (.clause other) = .ok (.fulltext fields words mode) :=
    hother
  have hdemand : (Query.fulltext fields words mode).OneDemand :=
    Query.oneDemand_of_clauses_eq_nil rfl
  have hsettled : (Query.fulltext fields words mode).Settled c.catalog resource :=
    Query.settled_of_clauses_eq_nil rfl (by rintro ⟨⟩)
  simp only [List.forall_mem_cons]
  refine ⟨?alone, ?after, ?before, by simp⟩
  case alone =>
    refine ⟨_, compile_of_expressionQuery hchoice, ?_⟩
    rw [Query.promote_of_filterClause hq]
    rfl
  case after =>
    exact ⟨_, compile_leftNested .nil hclause hbeside hnone hqs hdemand hsettled, rfl⟩
  case before =>
    exact ⟨_, compile_leftNested hbeside hclause .nil hqs hnone hdemand hsettled, rfl⟩

/-- **The values that an expression chooses are the ones that its facet selects.** For the choice
between values of a field, alone or on either side of a full-text clause, the facet of the field
counts the chosen values, each once and in their order, apart from all others, as far as its size
leaves room for those, and no filter narrows it. -/
theorem facetAggregations_compile_choiceOf (c : Compiler) (hd : c.dispatch = .standard)
    (resource : String) (f : Field) (hf : c.catalog.NamedByPath resource f)
    (hverbatim : f.Verbatim) (hfilter : f.has .filter = true) (hfacet : f.has .facet = true)
    (hne : f.path ≠ "") (hpath : ∀ x ∈ f.path.toList, FacetRequest.isNameChar x = true)
    (hall : Text.eqIgnoreAsciiCase f.path allRecordsIndex = false)
    (text : String) (texts : List String) (htexts : ∀ t ∈ text :: texts, '*' ∉ t.toList)
    (other : Clause) (fields : List String) (words : String) (mode : MatchMode)
    (hother : c.clauseQuery resource other = .ok (.fulltext fields words mode)) :
    let choice := choiceOf f.path text texts
    let selected := ((text :: texts).map Value.text).eraseDups
    let chosen : Aggregation :=
      .terms ("selected_" ++ f.path) f.path (some selected.length) selected []
    ∀ e ∈ [choice, .boolean .and (.clause other) choice, .boolean .and choice (.clause other)],
      ∃ s, c.compile resource e = .ok s ∧
        c.catalog.facetAggregations resource s.query [f.path] =
          .ok [.terms f.path f.path none [] selected, chosen] ∧
        ∀ facet n, FacetRequest.Written facet ⟨f.path, some n⟩ →
          c.catalog.facetAggregations resource s.query [facet] =
            .ok (if n ≤ selected.length then [chosen]
              else [.terms f.path f.path (some (n - selected.length)) [] selected, chosen]) := by
  intro choice selected chosen e he
  obtain ⟨s, hs, hscoped⟩ :=
    scopedFilters_of_choiceOf hd hf hverbatim hfilter hall htexts hother e he
  have hselected : selected ≠ [] := by
    simp only [selected, List.map_cons, List.eraseDups_cons]
    exact List.cons_ne_nil _ _
  refine ⟨s, hs, ?_, ?_⟩
  · have hparse := FacetRequest.parse_eq_ok_iff.2 (.unbounded f.path hne hpath)
    rw [Catalog.facetAggregations_oneOf hf hfacet hscoped hparse]
    exact congrArg Except.ok (FacetRequest.termAggregations_of_ne_nil hselected _ _)
  · intro facet n hwritten
    have hparse := FacetRequest.parse_eq_ok_iff.2 hwritten
    rw [Catalog.facetAggregations_oneOf hf hfacet hscoped hparse]
    exact congrArg Except.ok (FacetRequest.termAggregations_of_ne_nil hselected _ _)

/-- Two genres, one of them named twice, beside a search in titles. -/
theorem facetAggregations_compile_choiceOf_genres :
    let c : Compiler := ⟨.books, .standard, .standard, .standard⟩
    let whale : Clause := ⟨"title", "all", "whale", []⟩
    let genres := choiceOf "genre" "novel" ["poem", "novel"]
    let chosen : Aggregation :=
      .terms "selected_genre" "genre" (some 2) [.text "novel", .text "poem"] []
    ∃ s, c.compile "book" (.boolean .and (.clause whale) genres) = .ok s ∧
      Catalog.facetAggregations .books "book" s.query ["genre:2"] = .ok [chosen] ∧
      Catalog.facetAggregations .books "book" s.query ["genre:5"] =
        .ok [.terms "genre" "genre" (some 3) [] [.text "novel", .text "poem"], chosen] := by
  intro c whale genres chosen
  have hpath : ∀ x ∈ "genre".toList, FacetRequest.isNameChar x = true :=
    List.all_eq_true.1 (by decide)
  obtain ⟨s, hs, -, hsized⟩ :=
    facetAggregations_compile_choiceOf c rfl "book"
      ⟨"genre", [.filter, .facet], false, none, .keyword, none⟩
      ⟨by decide, by decide, by decide⟩ ⟨by decide, rfl, rfl⟩ (by decide) (by decide) (by decide)
      hpath (by decide) "novel" ["poem", "novel"] (by decide) whale ["title.*"] "whale" .all
      (by decide +kernel) _ (List.mem_cons_of_mem _ List.mem_cons_self)
  refine ⟨s, hs, ?_, ?_⟩
  · exact hsized "genre:2" 2 (FacetRequest.parse_eq_ok_iff.1 (by decide))
  · exact hsized "genre:5" 5 (FacetRequest.parse_eq_ok_iff.1 (by decide))

end Compiler

end CatalogSearch
