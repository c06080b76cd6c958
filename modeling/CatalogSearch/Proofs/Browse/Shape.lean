import CatalogSearch.Browse.Request
import CatalogSearch.Proofs.Except
import CatalogSearch.Proofs.Query.Chain

/-!
Which queries can be browsed, and what becomes of them. Each step of the recovery of a browse
context is taken apart into what it demands and what it then yields, in both directions: a query is
accepted if and only if it is a range with one end, or a choice of two ranges that meet in one
value, with filters beside it or none.
-/

namespace CatalogSearch

namespace Range

/-- A range that ends at a value and has no lower end. -/
def UpTo (r : Range) (v : Value) : Prop := r.lower = none ∧ r.upper = some v

/-- A range that starts at a value and has no upper end. -/
def From (r : Range) (v : Value) : Prop := r.lower = some v ∧ r.upper = none

theorem upTo_atMost (field : String) (v : Value) (inclusive : Bool) :
    (atMost field v inclusive).UpTo v := ⟨rfl, rfl⟩

theorem from_atLeast (field : String) (v : Value) (inclusive : Bool) :
    (atLeast field v inclusive).From v := ⟨rfl, rfl⟩

theorem UpTo.isUpperOnly {r : Range} {v : Value} (h : r.UpTo v) : r.isUpperOnly = true :=
  isUpperOnly_iff.2 ⟨v, h⟩

theorem From.isLowerOnly {r : Range} {v : Value} (h : r.From v) : r.isLowerOnly = true :=
  isLowerOnly_iff.2 ⟨v, h⟩

theorem UpTo.anchor? {r : Range} {v : Value} (h : r.UpTo v) : r.anchor? = some v := by
  rw [Range.anchor?, h.1, h.2]
  rfl

theorem From.anchor? {r : Range} {v : Value} (h : r.From v) : r.anchor? = some v := by
  rw [Range.anchor?, h.1]
  rfl

theorem From.isUpperOnly {r : Range} {v : Value} (h : r.From v) : r.isUpperOnly = false := by
  rw [Range.isUpperOnly, h.1]
  rfl

end Range

namespace BrowseRequest

variable {b : BrowseRequest} {r s : Range} {filters : List Query} {context : BrowseContext}

/-! ### The contexts that there are -/

/-- The context of the records before an anchor. -/
def pageBefore (b : BrowseRequest) (r : Range) (filters : List Query) (anchor : Value) :
    BrowseContext :=
  ⟨some r, none, filters, anchor, some b.limit, none⟩

/-- The context of the records from an anchor on. -/
def pageAfter (b : BrowseRequest) (r : Range) (filters : List Query) (anchor : Value) :
    BrowseContext :=
  ⟨none, some r, filters, anchor, none, some b.limit⟩

/-- The context of records on both sides of an anchor, with a share of the page for those before. -/
def pageAround (b : BrowseRequest) (r s : Range) (filters : List Query) (anchor : Value)
    (share : Nat) : BrowseContext :=
  ⟨some r, some s, filters, anchor, some share, some (b.limit - share)⟩

/-! ### The steps of the recovery -/

theorem checkField_eq_ok_iff {u : Unit} : b.checkField r = .ok u ↔ r.field = b.field := by
  unfold checkField
  split
  · next h => exact iff_of_true rfl h
  · next h =>
      refine iff_of_false ?_ h
      rintro ⟨⟩

theorem oneDirection_eq_ok_iff :
    b.oneDirection r filters = .ok context ↔
      r.field = b.field ∧ ∃ v, (r.UpTo v ∧ context = b.pageBefore r filters v) ∨
        (r.From v ∧ context = b.pageAfter r filters v) := by
  unfold oneDirection
  simp only [bind_eq_ok_iff, checkField_eq_ok_iff, exists_const, Range.UpTo, Range.From]
  refine and_congr_right fun _ => ?_
  cases hlower : r.lower with
  | none =>
      cases hupper : r.upper with
      | none => simp [throw_ne_ok]
      | some v => simp [pure, Except.pure, pageBefore, eq_comm]
  | some v =>
      cases hupper : r.upper with
      | none => simp [pure, Except.pure, pageAfter, eq_comm]
      | some w => simp [throw_ne_ok]

/-- The share of the records before an anchor is the count that is asked for, or half of the page.
-/
theorem precedingShare_eq_ok_iff {share : Nat} :
    b.precedingShare = .ok share ↔
      (∀ count ∈ b.precedingCount, count ≤ b.limit) ∧
        share = b.precedingCount.getD (b.limit / 2) := by
  unfold precedingShare
  cases b.precedingCount with
  | none => simp [eq_comm]
  | some count =>
      by_cases h : b.limit < count
      · simp [h, Nat.not_le.2 h]
      · simp [h, Nat.le_of_not_lt h, eq_comm]

/-- Two ranges can be browsed if one ends where the other one starts, in either order. -/
theorem aroundRanges_eq_ok_iff :
    b.aroundRanges r s filters = .ok context ↔
      r.field = b.field ∧ s.field = b.field ∧ ∃ v share, b.precedingShare = .ok share ∧
        ((r.UpTo v ∧ s.From v ∧ context = b.pageAround r s filters v share) ∨
          (s.UpTo v ∧ r.From v ∧ context = b.pageAround s r filters v share)) := by
  unfold aroundRanges
  simp only [bind_eq_ok_iff, checkField_eq_ok_iff, exists_const, check_eq_ok_iff, not_not,
    Bool.not_eq_true, Bool.or_eq_false_iff, Bool.not_eq_false']
  refine and_congr_right fun _ => and_congr_right fun _ => ?_
  constructor
  · rintro ⟨hanchor, ⟨hupper, hlower⟩, h⟩
    obtain ⟨v, hv⟩ := Range.isUpperOnly_iff.1 hupper
    obtain ⟨w, hw⟩ := Range.isLowerOnly_iff.1 hlower
    by_cases hr : r.isUpperOnly = true
    · simp only [if_pos hr] at hv hw h
      obtain rfl : v = w := by
        rw [Range.UpTo.anchor? hv, Range.From.anchor? hw] at hanchor
        exact Option.some.inj hanchor
      rw [Range.UpTo.anchor? hv] at h
      obtain ⟨share, hshare, h⟩ := bind_eq_ok_iff.1 h
      exact ⟨v, share, hshare, Or.inl ⟨hv, hw, (Except.ok.inj h).symm⟩⟩
    · simp only [if_neg hr] at hv hw h
      obtain rfl : v = w := by
        rw [Range.UpTo.anchor? hv, Range.From.anchor? hw] at hanchor
        exact (Option.some.inj hanchor).symm
      rw [Range.UpTo.anchor? hv] at h
      obtain ⟨share, hshare, h⟩ := bind_eq_ok_iff.1 h
      exact ⟨v, share, hshare, Or.inr ⟨hv, hw, (Except.ok.inj h).symm⟩⟩
  · rintro ⟨v, share, hshare, ⟨hr, hs, rfl⟩ | ⟨hs, hr, rfl⟩⟩
    · rw [if_pos hr.isUpperOnly, hr.anchor?, hs.anchor?]
      refine ⟨rfl, ⟨hr.isUpperOnly, hs.isLowerOnly⟩, bind_eq_ok_iff.2 ⟨share, hshare, rfl⟩⟩
    · rw [hr.isUpperOnly, if_neg Bool.false_ne_true, hr.anchor?, hs.anchor?]
      exact ⟨rfl, ⟨hs.isUpperOnly, hr.isLowerOnly⟩, bind_eq_ok_iff.2 ⟨share, hshare, rfl⟩⟩

/-! ### The queries that are accepted -/

theorem around_eq_ok_iff {must should mustNot filter outer : List Query} :
    b.around must should mustNot filter outer = .ok context ↔
      must = [] ∧ mustNot = [] ∧ ∃ r s, should = [.range r, .range s] ∧
        b.aroundRanges r s (outer ++ filter) = .ok context := by
  unfold around
  by_cases hbeside : must = [] ∧ mustNot = []
  · obtain ⟨rfl, rfl⟩ := hbeside
    simp only [List.isEmpty_nil, Bool.not_true, Bool.or_self, Bool.false_eq_true, if_false,
      true_and]
    split
    · next r s => simp
    · next hranges =>
        refine iff_of_false (by simp) ?_
        rintro ⟨r, s, rfl, -⟩
        exact hranges r s rfl
  · rw [if_pos (by simpa [← not_and_or] using hbeside)]
    refine iff_of_false (by simp) ?_
    rintro ⟨hmust, hmustNot, -⟩
    exact hbeside ⟨hmust, hmustNot⟩

theorem ofQuery_range_beside (b : BrowseRequest) (r : Range) (filters : List Query) :
    b.ofQuery ((Query.range r).beside filters) = b.oneDirection r filters := by
  by_cases h : filters = []
  · rw [h]
    rfl
  · rw [Query.beside_of_ne_nil _ h, ofQuery]
    simp [h]

theorem ofQuery_choice_beside (b : BrowseRequest) (r s : Range) (inner outer : List Query) :
    b.ofQuery ((Query.bool [] [.range r, .range s] [] inner).beside outer) =
      b.aroundRanges r s (outer ++ inner) := by
  by_cases h : outer = []
  · rw [h]
    rfl
  · rw [Query.beside_of_ne_nil _ h, ofQuery]
    simp [h, around]

/-- A query is accepted exactly if it is a range, or a choice of two ranges, that can be browsed,
with filters beside it or none. -/
theorem ofQuery_eq_ok_iff {q : Query} :
    b.ofQuery q = .ok context ↔
      (∃ r filters, q = (Query.range r).beside filters ∧
        b.oneDirection r filters = .ok context) ∨
      ∃ r s inner outer, q = (Query.bool [] [.range r, .range s] [] inner).beside outer ∧
        b.aroundRanges r s (outer ++ inner) = .ok context := by
  constructor
  · intro h
    cases q with
    | range r => exact Or.inl ⟨r, [], rfl, h⟩
    | bool must should mustNot filter =>
        unfold ofQuery at h
        dsimp only at h
        split_ifs at h with hmustNot hmust hbeside
        · obtain rfl := List.isEmpty_iff.1 hmust
          obtain ⟨-, rfl, r, s, rfl, h⟩ := around_eq_ok_iff.1 h
          exact Or.inr ⟨r, s, filter, [], rfl, h⟩
        · obtain ⟨hfilter, hshould⟩ : filter ≠ [] ∧ should = [] := by simpa using hbeside
          obtain rfl : mustNot = [] := by simpa using hmustNot
          subst hshould
          split at h
          · next r => exact Or.inl ⟨r, filter, (Query.beside_of_ne_nil _ hfilter).symm, h⟩
          · next must should mustNot inner =>
              obtain ⟨rfl, rfl, r, s, rfl, h⟩ := around_eq_ok_iff.1 h
              exact Or.inr ⟨r, s, inner, filter, (Query.beside_of_ne_nil _ hfilter).symm, h⟩
          · cases h
    | _ => cases h
  · rintro (⟨r, filters, rfl, h⟩ | ⟨r, s, inner, outer, rfl, h⟩)
    · rwa [ofQuery_range_beside]
    · rwa [ofQuery_choice_beside]

theorem withQuery_eq_ok_iff {α : Type} {x : Except BrowseFault α} {a : α} :
    b.withQuery x = .ok a ↔ x = .ok a := by
  cases x with
  | ok a' => simp [withQuery]
  | error fault => simp [withQuery]

/-- A search has a context exactly if it is not sorted and its query is accepted. -/
theorem context_eq_ok_iff {search : SearchQuery} :
    b.context search = .ok context ↔ search.sort = [] ∧ b.ofQuery search.query = .ok context := by
  rw [BrowseRequest.context, withQuery_eq_ok_iff]
  by_cases hsort : search.sort = []
  · simp [hsort]
  · simp [hsort]

end BrowseRequest

end CatalogSearch
