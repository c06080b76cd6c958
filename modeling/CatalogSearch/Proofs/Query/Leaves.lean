import CatalogSearch.Query.Basic

/-!
What queries look at. The leaves of a query are the tests that it puts to a document, in the order
in which they stand, and each leaf names the fields of the index that it is about.
-/

namespace CatalogSearch.Query

mutual

/-- The leaves of a query, in order. -/
def leaves : Query → List Query
  | bool must should mustNot filter =>
    leavesAll must ++ leavesAll should ++ leavesAll mustNot ++ leavesAll filter
  | scored q _ => leaves q
  | q => [q]

/-- The leaves of a list of queries, in order. -/
def leavesAll : List Query → List Query
  | [] => []
  | q :: qs => leaves q ++ leavesAll qs

end

/-- The fields of the index that a leaf is about. -/
def leafFields : Query → List String
  | term field _ => [field]
  | range r => [r.field]
  | wildcard field _ => [field]
  | fulltext fields _ _ => fields
  | _ => []

/-- The fields of the index that a query looks at, in order. -/
def fields (q : Query) : List String := q.leaves.flatMap leafFields

/-- A query that looks for no pattern, at whatever depth. -/
def WithoutPatterns (q : Query) : Prop := ∀ field pattern, wildcard field pattern ∉ q.leaves

@[simp]
theorem leaves_matchAll : matchAll.leaves = [matchAll] := rfl

@[simp]
theorem leaves_term (field : String) (v : Value) : (term field v).leaves = [term field v] := rfl

@[simp]
theorem leaves_range (r : Range) : (range r).leaves = [range r] := rfl

@[simp]
theorem leaves_wildcard (field pattern : String) :
    (wildcard field pattern).leaves = [wildcard field pattern] := rfl

@[simp]
theorem leaves_fulltext (fields : List String) (v : String) (mode : MatchMode) :
    (fulltext fields v mode).leaves = [fulltext fields v mode] := rfl

theorem leavesAll_eq_flatMap (qs : List Query) : leavesAll qs = qs.flatMap leaves := by
  induction qs with
  | nil => rfl
  | cons q qs ih => rw [leavesAll, ih, List.flatMap_cons]

@[simp]
theorem leaves_bool (must should mustNot filter : List Query) :
    (bool must should mustNot filter).leaves =
      (must ++ should ++ mustNot ++ filter).flatMap leaves := by
  simp only [leaves, leavesAll_eq_flatMap, List.flatMap_append]

theorem fields_bool (must should mustNot filter : List Query) :
    (bool must should mustNot filter).fields =
      (must ++ should ++ mustNot ++ filter).flatMap fields := by
  rw [fields, leaves_bool, List.flatMap_assoc]
  rfl

/-! ### Queries without patterns -/

theorem withoutPatterns_term (field : String) (v : Value) : (term field v).WithoutPatterns := by
  simp [WithoutPatterns]

theorem withoutPatterns_range (r : Range) : (range r).WithoutPatterns := by
  simp [WithoutPatterns]

theorem withoutPatterns_fulltext (fields : List String) (v : String) (mode : MatchMode) :
    (fulltext fields v mode).WithoutPatterns := by
  simp [WithoutPatterns]

theorem withoutPatterns_bool {must should mustNot filter : List Query}
    (h : ∀ c ∈ must ++ should ++ mustNot ++ filter, c.WithoutPatterns) :
    (bool must should mustNot filter).WithoutPatterns := by
  intro field pattern hmem
  rw [leaves_bool] at hmem
  obtain ⟨c, hc, hmem⟩ := List.mem_flatMap.1 hmem
  exact h c hc field pattern hmem

end CatalogSearch.Query
