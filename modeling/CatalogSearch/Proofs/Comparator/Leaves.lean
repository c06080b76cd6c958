import CatalogSearch.Proofs.Comparator.Shape
import CatalogSearch.Proofs.Query.Leaves

/-!
The fields that strategies look at, and how. Only one strategy looks for patterns. The query of a
group looks at one field for each member, in the form in which words are searched or in the form in
which whole values are compared. On a full-text field the comparator says which form is looked at;
the modifier that asks for the untokenized form is heard by one strategy only.
-/

namespace CatalogSearch

open Query

/-! ### Patterns -/

/-- A strategy that looks for no patterns, neither in groups nor in fields that are compared as a
whole. -/
structure Strategy.WithoutPatterns (s : Strategy) : Prop where
  onGroup : ∀ v members, Yields Query.WithoutPatterns (s.onGroup v members)
  onTerm : ∀ v field, Yields Query.WithoutPatterns (s.onTerm v field)

namespace Strategy

variable {s : Strategy} {comparator : String}

theorem withoutPatterns_noneOf {q : Query} (h : q.WithoutPatterns) :
    (noneOf q).WithoutPatterns := by
  apply withoutPatterns_bool
  simpa using h

theorem withoutPatterns_anyOf {queries : List Query} (h : ∀ q ∈ queries, q.WithoutPatterns) :
    (anyOf queries).WithoutPatterns := by
  apply withoutPatterns_bool
  simpa using h

theorem withoutPatterns_wordTerms {join : List Query → Query}
    (hjoin : ∀ terms, (∀ q ∈ terms, q.WithoutPatterns) → (join terms).WithoutPatterns)
    (v : Value) (field : String) : (wordTerms join v field).WithoutPatterns := by
  unfold wordTerms
  split
  · exact withoutPatterns_term field v
  · exact withoutPatterns_term field _
  · apply hjoin
    intro q hq
    obtain ⟨word, -, rfl⟩ := List.mem_map.1 hq
    exact withoutPatterns_term field word

/-- Of a strategy that searches groups for words, only the queries of single fields matter. -/
theorem withoutPatterns_of_search (hgroup : ∀ v members, ∃ mode,
      s.onGroup v members = .ok (groupQuery members v mode))
    (hterm : ∀ v field, Yields Query.WithoutPatterns (s.onTerm v field)) : s.WithoutPatterns where
  onGroup v members := by
    obtain ⟨mode, h⟩ := hgroup v members
    rw [h]
    exact yields_ok (withoutPatterns_fulltext _ _ _)
  onTerm := hterm

theorem withoutPatterns_equal : equal.WithoutPatterns :=
  withoutPatterns_of_search (fun _ _ => ⟨.all, rfl⟩) fun _ _ => yields_ok (withoutPatterns_term _ _)

theorem withoutPatterns_exact : exact.WithoutPatterns where
  onGroup v members := by
    apply yields_ok
    apply withoutPatterns_anyOf
    intro q hq
    obtain ⟨m, -, rfl⟩ := List.mem_map.1 hq
    exact withoutPatterns_term m.termField v
  onTerm _ _ := yields_ok (withoutPatterns_term _ _)

theorem withoutPatterns_all : all.WithoutPatterns := by
  refine withoutPatterns_of_search (fun _ _ => ⟨.all, rfl⟩) fun v field => yields_ok ?_
  apply withoutPatterns_wordTerms
  intro terms hterms
  apply withoutPatterns_bool
  simpa using hterms

theorem withoutPatterns_any : any.WithoutPatterns :=
  withoutPatterns_of_search (fun _ _ => ⟨.any, rfl⟩) fun v field =>
    yields_ok (withoutPatterns_wordTerms (fun _ => withoutPatterns_anyOf) v field)

theorem withoutPatterns_adjacent : adjacent.WithoutPatterns :=
  withoutPatterns_of_search (fun _ _ => ⟨.phrase, rfl⟩) fun _ _ =>
    yields_ok (withoutPatterns_term _ _)

theorem withoutPatterns_notEqual : notEqual.WithoutPatterns where
  onGroup _ _ := yields_ok (withoutPatterns_noneOf (withoutPatterns_fulltext _ _ _))
  onTerm _ _ := yields_ok (withoutPatterns_noneOf (withoutPatterns_term _ _))

theorem withoutPatterns_relational (name comparator : String) (range : String → Value → Range) :
    (relational name comparator range).WithoutPatterns where
  onGroup _ _ := yields_error _ _
  onTerm _ _ := yields_ok (withoutPatterns_range _)

/-- All strategies but that of one comparator look for no patterns. -/
theorem withoutPatterns_of_mem_standard (hs : s ∈ standard)
    (hcomparator : comparator ∈ s.comparators) (hne : comparator ≠ wildcardComparator) :
    s.WithoutPatterns := by
  simp only [standard, List.mem_cons, List.not_mem_nil, or_false] at hs
  rcases hs with rfl | rfl | rfl | rfl | rfl | rfl | rfl | rfl | rfl | rfl | rfl
  · exact withoutPatterns_equal
  · exact withoutPatterns_exact
  · exact withoutPatterns_all
  · exact withoutPatterns_any
  · exact withoutPatterns_adjacent
  · exact withoutPatterns_notEqual
  · exact withoutPatterns_relational ..
  · exact withoutPatterns_relational ..
  · exact withoutPatterns_relational ..
  · exact withoutPatterns_relational ..
  · exact absurd (List.mem_singleton.1 hcomparator) hne

/-! ### The fields of groups -/

theorem leaves_anyOf_map {α : Type} {f : α → Query} (h : ∀ x, (f x).leaves = [f x]) (xs : List α) :
    (anyOf (xs.map f)).leaves = xs.map f := by
  simp only [anyOf, leaves_bool, List.nil_append, List.append_nil, List.flatMap_map, h]
  exact List.map_eq_flatMap.symm

theorem fields_noneOf (q : Query) : (noneOf q).fields = q.fields := by
  rw [noneOf, fields_bool]
  simp

theorem fields_fulltextQuery (fields : List String) (v : Value) (mode : MatchMode) :
    (fulltextQuery fields v mode).fields = fields := by
  simp [fulltextQuery, Query.fields, leafFields]

theorem fields_anyOf_map {α : Type} {f : α → Query} {field : α → String}
    (h : ∀ x, (f x).fields = [field x]) (xs : List α) :
    (anyOf (xs.map f)).fields = xs.map field := by
  simp only [anyOf, fields_bool, List.nil_append, List.append_nil, List.flatMap_map, h]
  exact List.map_eq_flatMap.symm

/-- The query of a group looks at a field of each member, for all members in the same form. -/
theorem fields_onGroup (hs : s ∈ standard) (v : Value) (members : List Member) :
    Yields (fun q => q.fields = members.map Member.searchField ∨
      q.fields = members.map Member.termField) (s.onGroup v members) := by
  simp only [standard, List.mem_cons, List.not_mem_nil, or_false] at hs
  rcases hs with rfl | rfl | rfl | rfl | rfl | rfl | rfl | rfl | rfl | rfl | rfl
  · exact yields_ok (Or.inl (fields_fulltextQuery _ v .all))
  · exact yields_ok (Or.inr (fields_anyOf_map (fun _ => rfl) members))
  · exact yields_ok (Or.inl (fields_fulltextQuery _ v .all))
  · exact yields_ok (Or.inl (fields_fulltextQuery _ v .any))
  · exact yields_ok (Or.inl (fields_fulltextQuery _ v .phrase))
  · exact yields_ok (Or.inl ((fields_noneOf _).trans (fields_fulltextQuery _ v .all)))
  · exact yields_error _ _
  · exact yields_error _ _
  · exact yields_error _ _
  · exact yields_error _ _
  · exact yields_ok (Or.inr (fields_anyOf_map (fun _ => rfl) members))

/-! ### The field of a full-text target -/

/-- The comparators that compare the untokenized form of a full-text field, one of them only where
a modifier asks for it. -/
def untokenizedComparators : List String := ["=", "==", wildcardComparator]

/-- The comparators that bound the values of a field. -/
def rangeComparators : List String := [">", ">=", "<", "<="]

end Strategy

/-- The field that a comparator looks at under the modifier for the untokenized form. -/
def FulltextTarget.fieldUnderString (t : FulltextTarget) (comparator : String) : String :=
  if comparator ∈ Strategy.untokenizedComparators then t.literalField
  else if comparator ∈ Strategy.rangeComparators then t.path
  else t.searchField

namespace Strategy

theorem fields_onFulltext {s : Strategy} (hs : s ∈ standard) {comparator : String}
    (hcomparator : comparator ∈ s.comparators) {modifiers : List Modifier}
    (hliteral : hasModifier modifiers stringModifier = true) (v : Value) (t : FulltextTarget) :
    Yields (fun q => q.fields = [t.fieldUnderString comparator]) (s.onFulltext v t modifiers) := by
  simp only [standard, List.mem_cons, List.not_mem_nil, or_false] at hs
  rcases hs with rfl | rfl | rfl | rfl | rfl | rfl | rfl | rfl | rfl | rfl | rfl <;>
    obtain rfl := List.mem_singleton.1 hcomparator
  · simp only [equal, hliteral, if_true]
    exact yields_ok rfl
  · exact yields_ok rfl
  · exact yields_ok (fields_fulltextQuery _ v .all)
  · exact yields_ok (fields_fulltextQuery _ v .any)
  · exact yields_ok (fields_fulltextQuery _ v .phrase)
  · exact yields_ok ((fields_noneOf _).trans (fields_fulltextQuery _ v .all))
  · exact yields_ok rfl
  · exact yields_ok rfl
  · exact yields_ok rfl
  · exact yields_ok rfl
  · exact yields_ok rfl

end Strategy

end CatalogSearch
