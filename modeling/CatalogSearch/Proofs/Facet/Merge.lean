import CatalogSearch.Facet.Bucket
import CatalogSearch.Proofs.Except
import CatalogSearch.Proofs.Facet.Request
import CatalogSearch.Proofs.Query.Promotion

/-!
The results of facets, put back together. No name of a facet looks like the name of an aggregation
of selected values, so the name of a result tells which facet asked for it. In whatever order the
results come back, each facet gets all of its buckets and no others, the selected values first.
-/

namespace CatalogSearch

/-! ### The aggregations of facets -/

namespace Aggregation

mutual

/-- The names of the aggregations that count values, at any depth. -/
def countNames : Aggregation → List String
  | terms name .. => [name]
  | filter _ _ aggregations => countNamesOf aggregations

/-- The names of the aggregations of a list that count values. -/
def countNamesOf : List Aggregation → List String
  | [] => []
  | a :: rest => a.countNames ++ countNamesOf rest

end

end Aggregation

namespace FacetRequest

open Aggregation (countNamesOf)

theorem countNamesOf_termAggregations (r : FacetRequest) (field : String) (selected : List Value) :
    countNamesOf (r.termAggregations field selected) = [r.name] ∨
      countNamesOf (r.termAggregations field selected) = [selectedMark ++ r.name] ∨
      countNamesOf (r.termAggregations field selected) = [r.name, selectedMark ++ r.name] := by
  unfold termAggregations
  dsimp only
  split
  · exact Or.inl rfl
  · split
    · split
      · exact Or.inr (Or.inl rfl)
      · exact Or.inr (Or.inr rfl)
    · exact Or.inr (Or.inr rfl)

theorem countNamesOf_scopedAggregations (r : FacetRequest) (field : String) (s : FacetScope) :
    countNamesOf (r.scopedAggregations field s) =
      countNamesOf (r.termAggregations field s.selected) := by
  unfold scopedAggregations
  dsimp only
  split
  · rfl
  · exact List.append_nil _

/-- What a text asks for: the request that it is read as and its aggregations. -/
def Asks (k : Catalog) (resource : String) (q : Query) (facet : String)
    (part : FacetRequest × List Aggregation) : Prop :=
  parse facet = .ok part.1 ∧ part.1.aggregations k resource q = .ok part.2

variable {k : Catalog} {resource : String} {q : Query}

theorem rightUnique_asks : Relator.RightUnique (Asks k resource q) := by
  rintro facet ⟨r, as⟩ ⟨r', as'⟩ ⟨hr, has⟩ ⟨hr', has'⟩
  obtain rfl : r = r' := Except.ok.inj (hr.symm.trans hr')
  obtain rfl : as = as' := Except.ok.inj (has.symm.trans has')
  rfl

theorem Asks.countNames {facet : String} {part : FacetRequest × List Aggregation}
    (h : Asks k resource q facet part) :
    countNamesOf part.2 = [part.1.name] ∨ countNamesOf part.2 = [selectedMark ++ part.1.name] ∨
      countNamesOf part.2 = [part.1.name, selectedMark ++ part.1.name] := by
  obtain ⟨field, -, hpart⟩ := bind_eq_ok_iff.1 h.2
  rw [← Except.ok.inj hpart, countNamesOf_scopedAggregations]
  exact countNamesOf_termAggregations part.1 field _

theorem Asks.eq_of_mem_countNames {facet name : String} {part : FacetRequest × List Aggregation}
    (h : Asks k resource q facet part) (hname : name ∈ countNamesOf part.2) :
    name = part.1.name ∨ name = selectedMark ++ part.1.name := by
  rcases h.countNames with hnames | hnames | hnames
  · exact Or.inl (by simpa [hnames] using hname)
  · exact Or.inr (by simpa [hnames] using hname)
  · simpa [hnames] using hname

theorem Asks.countNames_ne_nil {facet : String} {part : FacetRequest × List Aggregation}
    (h : Asks k resource q facet part) : countNamesOf part.2 ≠ [] := by
  rcases h.countNames with hnames | hnames | hnames <;> simp [hnames]

theorem forall₂_bind_parse_iff {facets : List String} {lists : List (List Aggregation)} :
    List.Forall₂ (fun facet as => (parse facet >>= aggregations k resource q) = .ok as)
        facets lists ↔
      ∃ parts, List.Forall₂ (Asks k resource q) facets parts ∧ lists = parts.map Prod.snd := by
  constructor
  · intro h
    induction h with
    | nil => exact ⟨[], .nil, rfl⟩
    | cons h _ ih =>
        obtain ⟨r, hparse, haggregations⟩ := bind_eq_ok_iff.1 h
        obtain ⟨parts, hparts, rfl⟩ := ih
        exact ⟨(r, _) :: parts, .cons ⟨hparse, haggregations⟩ hparts, rfl⟩
  · rintro ⟨parts, hparts, rfl⟩
    rw [List.forall₂_map_right_iff]
    exact hparts.imp fun _ _ h => bind_eq_ok_iff.2 ⟨_, h.1, h.2⟩

end FacetRequest

/-- Aggregations are built facet by facet. -/
theorem Catalog.facetAggregations_eq_ok_iff {k : Catalog} {resource : String} {q : Query}
    {facets : List String} {aggregations : List Aggregation} :
    k.facetAggregations resource q facets = .ok aggregations ↔
      ∃ parts, List.Forall₂ (FacetRequest.Asks k resource q) facets parts ∧
        aggregations = parts.flatMap Prod.snd := by
  unfold facetAggregations
  rw [bind_eq_ok_iff]
  constructor
  · rintro ⟨lists, hlists, h⟩
    obtain ⟨parts, hparts, rfl⟩ :=
      FacetRequest.forall₂_bind_parse_iff.1 (mapM_eq_ok_iff.1 hlists)
    exact ⟨parts, hparts, (Except.ok.inj h).symm.trans List.flatMap_def.symm⟩
  · rintro ⟨parts, hparts, rfl⟩
    have hlists := FacetRequest.forall₂_bind_parse_iff.2 ⟨parts, hparts, rfl⟩
    exact ⟨_, mapM_eq_ok_iff.2 hlists, congrArg Except.ok List.flatMap_def.symm⟩

namespace Bucket

open FacetRequest (selectedMark)

/-! ### Names of results -/

theorem selectedFacet?_eq_some_iff {name facet : String} :
    selectedFacet? name = some facet ↔ name = selectedMark ++ facet := by
  unfold selectedFacet?
  constructor
  · intro h
    dsimp only at h
    split_ifs at h with hprefix
    obtain ⟨rest, hrest⟩ := List.isPrefixOf_iff_prefix.1 hprefix
    obtain rfl := Option.some.inj h
    rw [← String.toList_inj, ← hrest]
    simp
  · rintro rfl
    simp

theorem selectedFacet?_eq_none {name : String} (h : '_' ∉ name.toList) :
    selectedFacet? name = none := by
  rw [Option.eq_none_iff_forall_ne_some]
  intro facet hfacet
  rw [selectedFacet?_eq_some_iff.1 hfacet] at h
  simp [selectedMark] at h

/-- The facet that an aggregation of the given name counts for. -/
def facetOf (name : String) : String := (selectedFacet? name).getD name

theorem facetOf_selectedMark (facet : String) : facetOf (selectedMark ++ facet) = facet := by
  rw [facetOf, selectedFacet?_eq_some_iff.2 rfl, Option.getD_some]

theorem facetOf_of_eq_none {name : String} (h : selectedFacet? name = none) :
    facetOf name = name := by
  rw [facetOf, h, Option.getD_none]

/-! ### What merging does -/

/-- The buckets of all results of a name, in the order of the results. -/
def bucketsUnder (name : String) (results : List (String × List Bucket)) : List Bucket :=
  (results.filter fun result => result.1 = name).flatMap Prod.snd

theorem bucketsUnder_cons_self (name : String) (buckets : List Bucket)
    (rest : List (String × List Bucket)) :
    bucketsUnder name ((name, buckets) :: rest) = buckets ++ bucketsUnder name rest := by
  rw [bucketsUnder, List.filter_cons_of_pos (by simp)]
  rfl

theorem bucketsUnder_cons_of_ne {name other : String} (h : name ≠ other) (buckets : List Bucket)
    (rest : List (String × List Bucket)) :
    bucketsUnder name ((other, buckets) :: rest) = bucketsUnder name rest := by
  rw [bucketsUnder, List.filter_cons_of_neg (by simpa using h.symm)]
  rfl

theorem bucketsUnder_of_notMem {name : String} {results : List (String × List Bucket)}
    (h : name ∉ results.map Prod.fst) : bucketsUnder name results = [] := by
  rw [bucketsUnder, List.filter_eq_nil_iff.2]
  · rfl
  · intro result hresult hname
    obtain rfl : result.1 = name := by simpa using hname
    exact h (List.mem_map_of_mem hresult)

theorem bucketsUnder_append (name : String) (results results' : List (String × List Bucket)) :
    bucketsUnder name (results ++ results') =
      bucketsUnder name results ++ bucketsUnder name results' := by
  rw [bucketsUnder, List.filter_append, List.flatMap_append]
  rfl

theorem get?_append (t : NameTable (List Bucket)) (facet : String) (buckets : List Bucket)
    (name : String) :
    (append t facet buckets).get? name =
      if name = facet then some ((t.get? name).getD [] ++ buckets) else t.get? name := by
  rw [append, NameTable.get?_insert]
  by_cases h : name = facet
  · rw [if_pos h, if_pos h, h]
  · rw [if_neg h, if_neg h]

/-- Appending one list of buckets after the other, by induction on what is to be appended. -/
theorem get?_foldl_append (entries : List (String × List Bucket)) (t : NameTable (List Bucket))
    (name : String) :
    (entries.foldl (fun t entry => append t entry.1 entry.2) t).get? name =
      if name ∈ entries.map Prod.fst then
        some ((t.get? name).getD [] ++ bucketsUnder name entries)
      else t.get? name := by
  induction entries generalizing t with
  | nil => rfl
  | cons entry rest ih =>
      obtain ⟨facet, buckets⟩ := entry
      rw [List.foldl_cons, ih, get?_append, List.map_cons]
      by_cases hfacet : name = facet
      · subst hfacet
        rw [if_pos rfl, if_pos List.mem_cons_self, bucketsUnder_cons_self, Option.getD_some]
        by_cases hrest : name ∈ rest.map Prod.fst
        · rw [if_pos hrest, List.append_assoc]
        · rw [if_neg hrest, bucketsUnder_of_notMem hrest, List.append_nil]
      · rw [if_neg hfacet, bucketsUnder_cons_of_ne hfacet]
        simp only [List.mem_cons, hfacet, false_or]

/-! ### Merging by name -/

/-- The results of selected values, under the names of their facets. -/
def selectedResults (results : List (String × List Bucket)) : List (String × List Bucket) :=
  results.filterMap fun (name, buckets) =>
    (selectedFacet? name).map fun facet => (facet, buckets)

/-- The results of other values. -/
def otherResults (results : List (String × List Bucket)) : List (String × List Bucket) :=
  results.filter fun (name, _) => (selectedFacet? name).isNone

theorem get?_merge (results : List (String × List Bucket)) (name : String) :
    (merge results).get? name =
      if name ∈ (selectedResults results ++ otherResults results).map Prod.fst then
        some (bucketsUnder name (selectedResults results) ++
          bucketsUnder name (otherResults results))
      else none := by
  rw [← bucketsUnder_append]
  exact get?_foldl_append (selectedResults results ++ otherResults results) .empty name

theorem bucketsUnder_selectedResults (results : List (String × List Bucket)) (name : String) :
    bucketsUnder name (selectedResults results) = bucketsUnder (selectedMark ++ name) results := by
  induction results with
  | nil => rfl
  | cons result rest ih =>
      obtain ⟨other, buckets⟩ := result
      cases hother : selectedFacet? other with
      | none =>
          have hstep : selectedResults ((other, buckets) :: rest) = selectedResults rest := by
            simp [selectedResults, hother]
          have hne : selectedMark ++ name ≠ other := by
            rintro rfl
            rw [selectedFacet?_eq_some_iff.2 rfl] at hother
            cases hother
          rw [hstep, ih, bucketsUnder_cons_of_ne hne]
      | some facet =>
          have hstep : selectedResults ((other, buckets) :: rest) =
              (facet, buckets) :: selectedResults rest := by
            simp [selectedResults, hother]
          obtain rfl := selectedFacet?_eq_some_iff.1 hother
          rw [hstep]
          by_cases hfacet : name = facet
          · rw [hfacet, bucketsUnder_cons_self, bucketsUnder_cons_self, ← hfacet, ih]
          · have hne : selectedMark ++ name ≠ selectedMark ++ facet := by
              simpa using hfacet
            rw [bucketsUnder_cons_of_ne hfacet, bucketsUnder_cons_of_ne hne, ih]

theorem bucketsUnder_otherResults (results : List (String × List Bucket)) {name : String}
    (h : selectedFacet? name = none) :
    bucketsUnder name (otherResults results) = bucketsUnder name results := by
  rw [bucketsUnder, otherResults, List.filter_filter, bucketsUnder]
  congr 1
  apply List.filter_congr
  rintro ⟨other, buckets⟩ -
  by_cases hname : other = name
  · simp [hname, h]
  · simp [hname]

theorem mem_map_fst_results {results : List (String × List Bucket)} {name : String} :
    name ∈ (selectedResults results ++ otherResults results).map Prod.fst ↔
      ∃ result ∈ results, facetOf result.1 = name := by
  rw [List.map_append, List.mem_append]
  constructor
  · rintro (h | h)
    · obtain ⟨_, hentry, rfl⟩ := List.mem_map.1 h
      obtain ⟨result, hresult, hentry⟩ := List.mem_filterMap.1 hentry
      obtain ⟨facet, hfacet, rfl⟩ := Option.map_eq_some_iff.1 hentry
      exact ⟨result, hresult, by rw [facetOf, hfacet, Option.getD_some]⟩
    · obtain ⟨result, hresult, rfl⟩ := List.mem_map.1 h
      obtain ⟨hresult, hnone⟩ := List.mem_filter.1 hresult
      exact ⟨result, hresult, facetOf_of_eq_none (Option.isNone_iff_eq_none.1 hnone)⟩
  · rintro ⟨result, hresult, rfl⟩
    cases hfacet : selectedFacet? result.1 with
    | none =>
        have hother : result ∈ otherResults results :=
          List.mem_filter.2 ⟨hresult, Option.isNone_iff_eq_none.2 hfacet⟩
        refine Or.inr (List.mem_map.2 ⟨result, hother, ?_⟩)
        rw [facetOf_of_eq_none hfacet]
    | some facet =>
        have hentry : (facet, result.2) ∈ selectedResults results :=
          List.mem_filterMap.2 ⟨result, hresult, Option.map_eq_some_iff.2 ⟨facet, hfacet, rfl⟩⟩
        refine Or.inl (List.mem_map.2 ⟨_, hentry, ?_⟩)
        rw [facetOf, hfacet, Option.getD_some]

theorem mem_names_merge {results : List (String × List Bucket)} {name : String} :
    name ∈ (merge results).names ↔ ∃ result ∈ results, facetOf result.1 = name := by
  rw [NameTable.mem_names_iff, get?_merge, ← mem_map_fst_results]
  split
  · next h => exact iff_of_true rfl h
  · next h => exact iff_of_false (by simp) h

/-- The buckets of a facet are those of its selected values and then those of its other values. -/
theorem get?_merge_of_facet {results : List (String × List Bucket)} {name : String}
    (hname : selectedFacet? name = none) (h : ∃ result ∈ results, facetOf result.1 = name) :
    (merge results).get? name =
      some (bucketsUnder (selectedMark ++ name) results ++ bucketsUnder name results) := by
  rw [get?_merge, if_pos (mem_map_fst_results.2 h), bucketsUnder_selectedResults,
    bucketsUnder_otherResults results hname]

end Bucket

/-! ### Results of facets -/

/-- What comes back for an aggregation that counts values: the facet that asked for it, the name of
the aggregation, and the buckets. -/
structure FacetResult where
  facet : String
  name : String
  buckets : List Bucket
  deriving DecidableEq, Repr

namespace FacetResult

open Aggregation (countNamesOf)
open Bucket (bucketsUnder facetOf selectedFacet?)
open FacetRequest (Asks selectedMark)

/-- Whether results are those of the aggregations of facets, in any order. -/
def Answer (parts : List (FacetRequest × List Aggregation)) (results : List FacetResult) : Prop :=
  (results.map fun result => (result.facet, result.name)).Perm
    (parts.flatMap fun part => (countNamesOf part.2).map fun name => (part.1.name, name))

/-- The results as they are merged, which does not look at who asked for them. -/
def byName (results : List FacetResult) : List (String × List Bucket) :=
  results.map fun result => (result.name, result.buckets)

/-- The buckets of the results of a name, in the order of the results. -/
def bucketsNamed (name : String) (results : List FacetResult) : List Bucket :=
  (results.filter fun result => result.name = name).flatMap buckets

/-- The buckets of the results that a facet asked for. -/
def bucketsFor (facet : String) (results : List FacetResult) : List Bucket :=
  (results.filter fun result => result.facet = facet).flatMap buckets

variable {k : Catalog} {resource : String} {q : Query} {facets : List String}
  {parts : List (FacetRequest × List Aggregation)} {part : FacetRequest × List Aggregation}
  {results : List FacetResult} {result : FacetResult} {name : String}

theorem exists_asks (hparts : List.Forall₂ (Asks k resource q) facets parts) (h : part ∈ parts) :
    ∃ facet, Asks k resource q facet part := by
  induction hparts with
  | nil => cases h
  | cons hask _ ih =>
      rcases List.mem_cons.1 h with rfl | h
      · exact ⟨_, hask⟩
      · exact ih h

/-- The name of a facet has no underscore, which the mark of selected values has. -/
theorem selectedFacet?_name (hparts : List.Forall₂ (Asks k resource q) facets parts)
    (h : part ∈ parts) : selectedFacet? part.1.name = none := by
  obtain ⟨facet, hparse, -⟩ := exists_asks hparts h
  apply Bucket.selectedFacet?_eq_none
  intro hunderscore
  have hname := (FacetRequest.parse_eq_ok_iff.1 hparse).isNameChar '_' hunderscore
  exact absurd hname (by decide)

theorem mem_answer_iff (h : Answer parts results) {facet : String} :
    (∃ result ∈ results, result.facet = facet ∧ result.name = name) ↔
      ∃ part ∈ parts, name ∈ countNamesOf part.2 ∧ part.1.name = facet := by
  have hmem := h.mem_iff (a := (facet, name))
  simpa using hmem

theorem name_eq (hparts : List.Forall₂ (Asks k resource q) facets parts)
    (hanswer : Answer parts results) (h : result ∈ results) :
    result.name = result.facet ∨ result.name = selectedMark ++ result.facet := by
  obtain ⟨part, hpart, hname, hfacet⟩ := (mem_answer_iff hanswer).1 ⟨result, h, rfl, rfl⟩
  obtain ⟨facet, hask⟩ := exists_asks hparts hpart
  rw [← hfacet]
  exact hask.eq_of_mem_countNames hname

/-- The facet that asked for a result is the one that its name stands for. -/
theorem facetOf_name (hparts : List.Forall₂ (Asks k resource q) facets parts)
    (hanswer : Answer parts results) (h : result ∈ results) :
    facetOf result.name = result.facet := by
  rcases name_eq hparts hanswer h with hname | hname
  · obtain ⟨part, hpart, -, hfacet⟩ := (mem_answer_iff hanswer).1 ⟨result, h, rfl, rfl⟩
    rw [hname, ← hfacet]
    exact Bucket.facetOf_of_eq_none (selectedFacet?_name hparts hpart)
  · rw [hname]
    exact Bucket.facetOf_selectedMark result.facet

/-- Each facet that is asked for has a result, and each result was asked for. -/
theorem exists_facetOf_iff (hparts : List.Forall₂ (Asks k resource q) facets parts)
    (hanswer : Answer parts results) :
    (∃ entry ∈ byName results, facetOf entry.1 = name) ↔ ∃ part ∈ parts, part.1.name = name := by
  constructor
  · rintro ⟨_, hentry, rfl⟩
    obtain ⟨result, hresult, rfl⟩ := List.mem_map.1 hentry
    obtain ⟨part, hpart, -, hfacet⟩ := (mem_answer_iff hanswer).1 ⟨result, hresult, rfl, rfl⟩
    exact ⟨part, hpart, hfacet.trans (facetOf_name hparts hanswer hresult).symm⟩
  · rintro ⟨part, hpart, rfl⟩
    obtain ⟨facet, hask⟩ := exists_asks hparts hpart
    obtain ⟨other, hother⟩ := List.exists_mem_of_ne_nil _ hask.countNames_ne_nil
    obtain ⟨result, hresult, hfacet, -⟩ := (mem_answer_iff hanswer).2 ⟨part, hpart, hother, rfl⟩
    refine ⟨_, List.mem_map_of_mem hresult, ?_⟩
    rw [← hfacet]
    exact facetOf_name hparts hanswer hresult

theorem bucketsUnder_byName (results : List FacetResult) (name : String) :
    bucketsUnder name (byName results) = bucketsNamed name results := by
  rw [bucketsUnder, byName, List.filter_map, List.flatMap_map]
  rfl

theorem facet_eq_of_marked (hparts : List.Forall₂ (Asks k resource q) facets parts)
    (hanswer : Answer parts results) (h : result ∈ results)
    (hmarked : result.name = selectedMark ++ name) : result.facet = name := by
  rw [← facetOf_name hparts hanswer h, hmarked]
  exact Bucket.facetOf_selectedMark name

/-- A result under the name of its facet is one whose name is not marked. -/
theorem name_eq_iff (hparts : List.Forall₂ (Asks k resource q) facets parts)
    (hanswer : Answer parts results) (hname : selectedFacet? name = none) (h : result ∈ results) :
    result.name = name ↔ result.facet = name ∧ result.name ≠ selectedMark ++ name := by
  constructor
  · rintro rfl
    refine ⟨?_, ?_⟩
    · rw [← facetOf_name hparts hanswer h]
      exact Bucket.facetOf_of_eq_none hname
    · intro hmarked
      rw [Bucket.selectedFacet?_eq_some_iff.2 hmarked] at hname
      cases hname
  · rintro ⟨rfl, hmarked⟩
    exact (name_eq hparts hanswer h).resolve_right hmarked

/-- The results of a facet are those under its two names: each list keeps the order of the results,
and together they are the results that the facet asked for. -/
theorem filter_facet_perm (hparts : List.Forall₂ (Asks k resource q) facets parts)
    (hanswer : Answer parts results) (hname : selectedFacet? name = none) :
    ((results.filter fun result => result.name = selectedMark ++ name) ++
      results.filter fun result => result.name = name).Perm
        (results.filter fun result => result.facet = name) := by
  let marked := fun result : FacetResult => decide (result.name = selectedMark ++ name)
  have hmarked : results.filter marked =
      (results.filter fun result => result.facet = name).filter marked := by
    rw [List.filter_filter]
    apply List.filter_congr
    intro result hresult
    simpa [marked] using facet_eq_of_marked hparts hanswer hresult
  have hother : (results.filter fun result => result.name = name) =
      (results.filter fun result => result.facet = name).filter fun result => !marked result := by
    rw [List.filter_filter]
    apply List.filter_congr
    intro result hresult
    rw [Bool.eq_iff_iff]
    simpa [marked, and_comm] using name_eq_iff hparts hanswer hname hresult
  rw [hmarked, hother]
  exact List.filter_append_perm marked _

/-- **Results are put back together without mixing facets or losing buckets.** Whatever the query
and the facets, repeated ones included, and in whatever order the results come back: there is an
entry for each facet that was asked for and no other, the entry of a facet has the buckets of its
selected values and then those of its other values, and it has each bucket as often as it came back
for that facet. -/
theorem merge_answer (k : Catalog) (resource : String) (q : Query) (facets : List String)
    (aggregations : List Aggregation)
    (h : k.facetAggregations resource q facets = .ok aggregations) :
    ∃ parts, List.Forall₂ (Asks k resource q) facets parts ∧
      aggregations = parts.flatMap Prod.snd ∧
      ∀ results, Answer parts results →
        (∀ name, name ∈ (Bucket.merge (byName results)).names ↔
          ∃ part ∈ parts, part.1.name = name) ∧
        ∀ part ∈ parts, ∃ merged,
          (Bucket.merge (byName results)).get? part.1.name = some merged ∧
          merged = bucketsNamed (selectedMark ++ part.1.name) results ++
            bucketsNamed part.1.name results ∧
          merged.Perm (bucketsFor part.1.name results) := by
  obtain ⟨parts, hparts, rfl⟩ := Catalog.facetAggregations_eq_ok_iff.1 h
  refine ⟨parts, hparts, rfl, ?_⟩
  intro results hanswer
  refine ⟨?_, ?_⟩
  · intro name
    rw [Bucket.mem_names_merge, exists_facetOf_iff hparts hanswer]
  · intro part hpart
    have hname := selectedFacet?_name hparts hpart
    have hasked := (exists_facetOf_iff hparts hanswer).2 ⟨part, hpart, rfl⟩
    refine ⟨_, Bucket.get?_merge_of_facet hname hasked, ?_, ?_⟩
    · rw [bucketsUnder_byName, bucketsUnder_byName]
    · rw [bucketsUnder_byName, bucketsUnder_byName, bucketsNamed, bucketsNamed,
        ← List.flatMap_append]
      exact (filter_facet_perm hparts hanswer hname).flatMap_right buckets

/-- Two requests for the genres beside a filter on novels, the results of which come back mixed. -/
theorem merge_answer_genres :
    let novels : Query := .bool [] [] [] [.term "genre" (.text "novel")]
    let results : List FacetResult :=
      [⟨"genre", "genre", [⟨.text "essay", 2⟩]⟩, ⟨"genre", "selected_genre", [⟨.text "novel", 7⟩]⟩,
        ⟨"genre", "genre", [⟨.text "essay", 2⟩, ⟨.text "poem", 1⟩]⟩,
        ⟨"genre", "selected_genre", [⟨.text "novel", 7⟩]⟩]
    (∃ aggregations,
      Catalog.facetAggregations .books "book" novels ["genre:3", "genre"] = .ok aggregations) ∧
    (Bucket.merge (byName results)).get? "genre" =
      some [⟨.text "novel", 7⟩, ⟨.text "novel", 7⟩, ⟨.text "essay", 2⟩, ⟨.text "essay", 2⟩,
        ⟨.text "poem", 1⟩] := by
  intro novels results
  have hfirst : Asks .books "book" novels "genre:3" (⟨"genre", some 3⟩,
      [.terms "genre" "genre" (some 2) [] [.text "novel"],
        .terms "selected_genre" "genre" (some 1) [.text "novel"] []]) := ⟨by decide, rfl⟩
  have hsecond : Asks .books "book" novels "genre" (⟨"genre", none⟩,
      [.terms "genre" "genre" none [] [.text "novel"],
        .terms "selected_genre" "genre" (some 1) [.text "novel"] []]) := ⟨by decide, rfl⟩
  have hasks := List.Forall₂.cons hfirst (.cons hsecond .nil)
  have h := Catalog.facetAggregations_eq_ok_iff.2 ⟨_, hasks, rfl⟩
  obtain ⟨parts, hparts, -, hmerge⟩ := merge_answer .books "book" novels _ _ h
  obtain rfl := List.right_unique_forall₂' FacetRequest.rightUnique_asks hparts hasks
  have hmerged := hmerge results (by unfold Answer; decide)
  obtain ⟨merged, hget, rfl, -⟩ := hmerged.2 _ List.mem_cons_self
  exact ⟨⟨_, h⟩, hget⟩

end FacetResult

end CatalogSearch
