import CatalogSearch.Proofs.Query.Meaning
import CatalogSearch.Query.Promotion

/-!
Promotion of clauses to filters reaches a normal form. What can stand among the filters is described
without the recognisers, the recognisers are shown to decide it, and the clauses that promotion
moves and those that it keeps are together the clauses that were there. From that one permutation
follow that a second promotion changes nothing and that the documents found stay the same.
-/

namespace CatalogSearch

/-- Whether records can be filtered by a field. -/
def Catalog.Filterable (k : Catalog) (resource field : String) : Prop :=
  ∃ f, k.field? resource field = some f ∧ f.has .filter = true

theorem Catalog.isSome_fieldWith?_filter (k : Catalog) (resource field : String) :
    (k.fieldWith? resource field .filter).isSome = true ↔ k.Filterable resource field := by
  simp only [fieldWith?, Filterable, Option.isSome_filter, Option.any_eq_true]

namespace Query

/-! ### Recognising what can be a filter -/

theorem termField?_eq_some {q : Query} {field : String} :
    q.termField? = some field ↔ ∃ v, q = term field v := by
  cases q <;> simp [termField?]

theorem exists_map_term {qs : List Query} {field : String}
    (h : ∀ q ∈ qs, q.termField? = some field) : ∃ vs : List Value, qs = vs.map (term field) := by
  induction qs with
  | nil => exact ⟨[], rfl⟩
  | cons q qs ih =>
      obtain ⟨v, hv⟩ := termField?_eq_some.1 (h q List.mem_cons_self)
      obtain ⟨vs, hvs⟩ := ih fun r hr => h r (List.mem_cons_of_mem _ hr)
      exact ⟨v :: vs, by rw [hv, hvs, List.map_cons]⟩

theorem disjunctionField?_choice (field : String) (v : Value) (vs : List Value) :
    (bool [] ((v :: vs).map (term field)) [] []).disjunctionField? = some field := by
  simp [disjunctionField?, termField?]

/-- A choice is recognised exactly if it is between terms of one field and stands alone. -/
theorem disjunctionField?_eq_some {q : Query} {field : String} :
    q.disjunctionField? = some field ↔
      ∃ v vs, q = bool [] ((v :: vs).map (term field)) [] [] := by
  constructor
  · intro h
    unfold disjunctionField? at h
    split at h
    · next c cs =>
        obtain ⟨other, hc, h⟩ := Option.bind_eq_some_iff.1 h
        split at h
        · next hall =>
            obtain rfl : other = field := Option.some.inj h
            have hterms : ∀ q ∈ c :: cs, q.termField? = some other := by
              intro q hq
              rcases List.mem_cons.1 hq with rfl | hq
              · exact hc
              · exact beq_iff_eq.1 (List.all_eq_true.1 hall q hq)
            obtain ⟨vs, hvs⟩ := exists_map_term hterms
            cases vs with
            | nil => cases hvs
            | cons v vs => exact ⟨v, vs, by rw [hvs]⟩
        · cases h
    · cases h
  · rintro ⟨v, vs, rfl⟩
    exact disjunctionField?_choice field v vs

/-- What can stand among the filters: a term, or a choice between terms of one field, where the
field can be filtered by. -/
inductive FilterClause (k : Catalog) (resource : String) : Query → Prop where
  | term (field : String) (v : Value) (h : k.Filterable resource field) :
      FilterClause k resource (.term field v)
  | choice (field : String) (v : Value) (vs : List Value) (h : k.Filterable resource field) :
      FilterClause k resource (.bool [] ((v :: vs).map (.term field)) [] [])

theorem termField?_orElse_disjunctionField?_eq_some {q : Query} {field : String} :
    (q.termField? <|> q.disjunctionField?) = some field ↔
      (∃ v, q = term field v) ∨ ∃ v vs, q = bool [] ((v :: vs).map (term field)) [] [] := by
  rw [← termField?_eq_some, ← disjunctionField?_eq_some]
  cases q <;> simp [termField?, disjunctionField?]

variable {k : Catalog} {resource : String}

theorem isFilterClause_iff {q : Query} :
    q.isFilterClause k resource = true ↔ q.FilterClause k resource := by
  constructor
  · intro h
    unfold isFilterClause at h
    split at h
    · next field hfield =>
        have hf := (k.isSome_fieldWith?_filter resource field).1 h
        rcases termField?_orElse_disjunctionField?_eq_some.1 hfield with ⟨v, rfl⟩ | ⟨v, vs, rfl⟩
        · exact .term field v hf
        · exact .choice field v vs hf
    · cases h
  · rintro (⟨field, v, hf⟩ | ⟨field, v, vs, hf⟩)
    · exact (k.isSome_fieldWith?_filter resource field).2 hf
    · rw [isFilterClause, termField?_orElse_disjunctionField?_eq_some.2 (Or.inr ⟨v, vs, rfl⟩)]
      exact (k.isSome_fieldWith?_filter resource field).2 hf

instance (q : Query) : Decidable (q.FilterClause k resource) :=
  decidable_of_iff _ isFilterClause_iff

theorem isFilterClause_eq_decide (q : Query) :
    q.isFilterClause k resource = decide (q.FilterClause k resource) := by
  rw [Bool.eq_iff_iff, isFilterClause_iff, decide_eq_true_iff]

theorem not_filterClause_inFilter (q : Query) : ¬ q.inFilter.FilterClause k resource := by
  intro h
  cases h

/-! ### What promotion does -/

theorem promote_of_filterClause {q : Query} (h : q.FilterClause k resource) :
    q.promote k resource = q.inFilter := by
  unfold promote
  rw [if_pos (isFilterClause_iff.2 h)]

theorem promote_bool {must should mustNot filter : List Query}
    (h : ¬ (bool must should mustNot filter).FilterClause k resource) :
    (bool must should mustNot filter).promote k resource =
      bool (must.filter fun c => ¬ c.FilterClause k resource) should mustNot
        (filter ++ must.filter fun c => c.FilterClause k resource) := by
  unfold promote
  rw [if_neg (mt isFilterClause_iff.1 h)]
  simp only [isFilterClause_eq_decide, decide_not]

theorem promote_leaf {q : Query} (h : ¬ q.FilterClause k resource)
    (hleaf : ∀ must should mustNot filter, q ≠ bool must should mustNot filter) :
    q.promote k resource = q := by
  unfold promote
  rw [if_neg (mt isFilterClause_iff.1 h)]
  split
  · next must should mustNot filter => exact absurd rfl (hleaf must should mustNot filter)
  · rfl

/-- The clauses that stay and those that move are the clauses that were there. -/
theorem kept_append_moved_perm (k : Catalog) (resource : String) (must : List Query) :
    ((must.filter fun c => ¬ c.FilterClause k resource) ++
      must.filter fun c => c.FilterClause k resource).Perm must := by
  simp only [decide_not]
  exact List.perm_append_comm.trans
    (List.filter_append_perm (fun c => decide (c.FilterClause k resource)) must)

/-! ### The normal form -/

/-- A query in which there is nothing left to promote. -/
structure Settled (k : Catalog) (resource : String) (q : Query) : Prop where
  whole : ¬ q.FilterClause k resource
  clauses : ∀ must should mustNot filter, q = bool must should mustNot filter →
    ∀ c ∈ must, ¬ c.FilterClause k resource

theorem promote_eq_self {q : Query} (h : q.Settled k resource) : q.promote k resource = q := by
  cases q with
  | bool must should mustNot filter =>
      have hmust := h.clauses must should mustNot filter rfl
      rw [promote_bool h.whole, List.filter_eq_self.2 (by simpa using hmust),
        List.filter_eq_nil_iff.2 (by simpa using hmust), List.append_nil]
  | _ => exact promote_leaf h.whole (by simp)

theorem settled_promote (k : Catalog) (resource : String) (q : Query) :
    (q.promote k resource).Settled k resource := by
  by_cases h : q.FilterClause k resource
  · rw [promote_of_filterClause h]
    refine ⟨not_filterClause_inFilter q, ?_⟩
    rintro must should mustNot filter ⟨⟩ c hc
    cases hc
  · cases q with
    | bool must should mustNot filter =>
        have hperm := kept_append_moved_perm k resource must
        rw [promote_bool h]
        generalize hkept : must.filter (fun c => ¬ c.FilterClause k resource) = kept at hperm ⊢
        generalize must.filter (fun c => c.FilterClause k resource) = moved at hperm ⊢
        refine ⟨?_, ?_⟩
        · -- A choice that stands alone has no clauses that could have moved, so it was one before.
          intro hchoice
          generalize hfilter : filter ++ moved = filter' at hchoice
          cases hchoice with
          | choice field v vs hf =>
              obtain ⟨rfl, rfl⟩ := List.append_eq_nil_iff.1 hfilter
              obtain rfl := hperm.nil_eq
              exact h (.choice field v vs hf)
        · rintro must' should' mustNot' filter' ⟨⟩ c hc
          rw [← hkept] at hc
          simpa using (List.mem_filter.1 hc).2
    | _ =>
        rw [promote_leaf h (by simp)]
        exact ⟨h, by simp⟩

/-- **Promotion reaches a normal form.** A second promotion changes nothing, no clause that could be
a filter is left among those that have to match, and no clause is lost, repeated or moved past
another one of its list. -/
theorem promote_normalForm (k : Catalog) (resource : String) (q : Query) :
    (q.promote k resource).promote k resource = q.promote k resource ∧
    (∀ must should mustNot filter, q.promote k resource = bool must should mustNot filter →
      ∀ c ∈ must, ¬ c.FilterClause k resource) ∧
    (∀ must should mustNot filter, q = bool must should mustNot filter →
      ¬ q.FilterClause k resource →
      q.promote k resource =
          bool (must.filter fun c => ¬ c.FilterClause k resource) should mustNot
            (filter ++ must.filter fun c => c.FilterClause k resource) ∧
        ((must.filter fun c => ¬ c.FilterClause k resource) ++
          must.filter fun c => c.FilterClause k resource).Perm must) := by
  have hsettled := settled_promote k resource q
  refine ⟨promote_eq_self hsettled, hsettled.clauses, ?_⟩
  rintro must should mustNot filter rfl h
  exact ⟨promote_bool h, kept_append_moved_perm k resource must⟩

end Query

/-- A catalog of books: their names can be searched, they can be filtered by genre, and sorted by
the number of copies. -/
def Catalog.books : Catalog :=
  ⟨.ofList [("book",
    { name := "book"
      aliases := .ofList [("subject", "genre")]
      groups := .ofList [("names", ["title", "author"])]
      fields := .ofList [
        ("author", ⟨"author", [.fulltext], false, none, .keyword, none⟩),
        ("copies", ⟨"copies", [.sort], false, none, .long, none⟩),
        ("genre", ⟨"genre", [.filter, .facet], false, none, .keyword, none⟩),
        ("title", ⟨"title", [.fulltext], true, none, .keyword, none⟩)] })]⟩

namespace Query

variable {k : Catalog} {resource : String}

/-- The genre moves behind the filter that was there, and the search in titles stays. -/
theorem promote_normalForm_books :
    ¬ (bool [fulltext ["title.*"] "dune" .all, term "genre" (.text "novel")] []
        [term "copies" (.long 0)] [term "genre" (.text "old")]).FilterClause .books "book" ∧
    (bool [fulltext ["title.*"] "dune" .all, term "genre" (.text "novel")] []
        [term "copies" (.long 0)] [term "genre" (.text "old")]).promote .books "book" =
      bool [fulltext ["title.*"] "dune" .all] [] [term "copies" (.long 0)]
        [term "genre" (.text "old"), term "genre" (.text "novel")] := by
  have h : ¬ (bool [fulltext ["title.*"] "dune" .all, term "genre" (.text "novel")] []
      [term "copies" (.long 0)] [term "genre" (.text "old")]).FilterClause .books "book" := by
    decide
  have hnormal := (promote_normalForm .books "book" _).2.2 _ _ _ _ rfl h
  exact ⟨h, hnormal.1.trans (by decide)⟩

/-! ### What promotion keeps -/

theorem binds_append_of_perm (rule : ChoiceRule) {kept moved must : List Query}
    (filter : List Query) (hperm : (kept ++ moved).Perm must) :
    rule.binds kept (filter ++ moved) = rule.binds must filter := by
  cases rule with
  | always => rfl
  | withoutDemands =>
      have hnil : kept = [] ∧ moved = [] ↔ must = [] := by
        rw [← List.append_eq_nil_iff, ← List.isEmpty_iff, hperm.isEmpty_eq, List.isEmpty_iff]
      rw [Bool.eq_iff_iff]
      simp only [ChoiceRule.binds, Bool.and_eq_true, List.isEmpty_iff, List.append_eq_nil_iff,
        ← hnil]
      rw [and_assoc, and_comm (a := moved = [])]

/-- Clauses that have to match can as well be filters. -/
theorem finds_bool_append (rule : ChoiceRule) (d : Document) {kept moved must : List Query}
    (should mustNot filter : List Query) (hperm : (kept ++ moved).Perm must) :
    (bool kept should mustNot (filter ++ moved)).finds rule d =
      (bool must should mustNot filter).finds rule d := by
  have hall : must.all (finds rule d) = (kept.all (finds rule d) && moved.all (finds rule d)) := by
    rw [← List.all_append, hperm.all_eq]
  rw [finds_bool, finds_bool, binds_append_of_perm rule filter hperm, List.all_append, hall]
  simp only [Bool.and_assoc, Bool.and_left_comm]

theorem finds_promote (k : Catalog) (resource : String) (rule : ChoiceRule) (d : Document)
    (q : Query) : (q.promote k resource).finds rule d = q.finds rule d := by
  by_cases h : q.FilterClause k resource
  · rw [promote_of_filterClause h, finds_inFilter]
  · cases q with
    | bool must should mustNot filter =>
        rw [promote_bool h]
        have hperm := kept_append_moved_perm k resource must
        exact finds_bool_append rule d should mustNot filter hperm
    | _ => rw [promote_leaf h (by simp)]

/-- **Promotion keeps the documents found**, whether a choice beside clauses that have to match is a
demand or a preference. -/
theorem promote_keeps_documents (k : Catalog) (resource : String) (d : Document) (q : Query) :
    (q.promote k resource).finds .always d = q.finds .always d ∧
      (q.promote k resource).finds .withoutDemands d = q.finds .withoutDemands d :=
  ⟨finds_promote k resource .always d q, finds_promote k resource .withoutDemands d q⟩

end Query

end CatalogSearch
