import CatalogSearch.Proofs.Compiler.Meaning

/-!
The bounds that are left of conjoined ranges. Two ranges of one field become one: the lower end is
that of the first range that has one, but the upper end is that of the second range wherever the
first one has a lower end. So the first lower bound of a conjunction is always kept. Of the upper
bounds one is kept only if some operand along the right edge of the conjunction has no lower bound.
-/

namespace CatalogSearch

namespace Range

/-- The lower bound, and whether it belongs to the range. -/
def lowerEnd? (r : Range) : Option (Value × Bool) := r.lower.map (·, r.includeLower)

/-- The upper bound, and whether it belongs to the range. -/
def upperEnd? (r : Range) : Option (Value × Bool) := r.upper.map (·, r.includeUpper)

@[simp] theorem isSome_lowerEnd? (r : Range) : r.lowerEnd?.isSome = r.lower.isSome :=
  Option.isSome_map

@[simp] theorem isSome_upperEnd? (r : Range) : r.upperEnd?.isSome = r.upper.isSome :=
  Option.isSome_map

/-- A range with one end: of the lower and the upper bound it has exactly one. -/
def OneSided (r : Range) : Prop := r.isLowerOnly = true ∨ r.isUpperOnly = true

theorem OneSided.isUpperOnly_iff {r : Range} (h : r.OneSided) :
    r.isUpperOnly = true ↔ r.lowerEnd? = none := by
  rcases h with h | h
  · obtain ⟨v, hlower, hupper⟩ := Range.isLowerOnly_iff.1 h
    simp [isUpperOnly, lowerEnd?, hlower]
  · obtain ⟨v, hlower, hupper⟩ := Range.isUpperOnly_iff.1 h
    simp [isUpperOnly, lowerEnd?, hlower, hupper]

theorem OneSided.isLowerOnly_iff {r : Range} (h : r.OneSided) :
    r.isLowerOnly = true ↔ r.lowerEnd?.isSome = true := by
  rcases h with h | h
  · obtain ⟨v, hlower, hupper⟩ := Range.isLowerOnly_iff.1 h
    simp [isLowerOnly, hlower, hupper]
  · obtain ⟨v, hlower, hupper⟩ := Range.isUpperOnly_iff.1 h
    simp [isLowerOnly, hlower]

theorem isSome_upperEnd?_of_isUpperOnly {r : Range} (h : r.isUpperOnly = true) :
    r.upperEnd?.isSome = true := by
  obtain ⟨v, -, hupper⟩ := Range.isUpperOnly_iff.1 h
  rw [isSome_upperEnd?, hupper, Option.isSome_some]

theorem field_collapse {r s : Range} (h : r.field = s.field) : (r.collapse s).field = r.field := by
  cases hlower : r.lower with
  | none => simp [collapse, lowerFirst, hlower, h]
  | some v => simp [collapse, lowerFirst, hlower]

theorem lowerEnd?_collapse (r s : Range) :
    (r.collapse s).lowerEnd? = r.lowerEnd?.or s.lowerEnd? := by
  cases hlower : r.lower with
  | none => simp [collapse, lowerFirst, lowerEnd?, hlower]
  | some v => simp [collapse, lowerFirst, lowerEnd?, hlower]

/-- Beside a lower end the upper end is not looked at. -/
theorem upperEnd?_collapse (r s : Range) :
    (r.collapse s).upperEnd? = if r.lowerEnd?.isSome then s.upperEnd? else r.upperEnd? := by
  cases hlower : r.lower with
  | none => simp [collapse, lowerFirst, upperEnd?, hlower]
  | some v => simp [collapse, lowerFirst, upperEnd?, hlower]

/-- The upper end of ranges none of which has a lower end: that of the first one. -/
def ceiling? (rs : List Range) : Option (Value × Bool) :=
  if rs.all isUpperOnly then rs.findSome? upperEnd? else none

theorem ceiling?_eq_none {rs : List Range} (h : ¬ ∀ r ∈ rs, r.isUpperOnly = true) :
    ceiling? rs = none := by
  rw [ceiling?, if_neg (by rwa [List.all_eq_true])]

theorem ceiling?_eq {rs : List Range} (h : ∀ r ∈ rs, r.isUpperOnly = true) :
    ceiling? rs = rs.findSome? upperEnd? := by
  rw [ceiling?, if_pos (List.all_eq_true.2 h)]

theorem isSome_ceiling?_iff {rs : List Range} (hne : rs ≠ []) :
    (ceiling? rs).isSome = true ↔ ∀ r ∈ rs, r.isUpperOnly = true := by
  constructor
  · intro h
    by_contra hall
    rw [ceiling?_eq_none hall] at h
    cases h
  · intro hall
    obtain ⟨r, hr⟩ := List.exists_mem_of_ne_nil rs hne
    rw [ceiling?_eq hall, List.findSome?_isSome_iff]
    exact ⟨r, hr, isSome_upperEnd?_of_isUpperOnly (hall r hr)⟩

theorem OneSided.ceiling?_singleton {r : Range} (h : r.OneSided) :
    ceiling? [r] = r.upperEnd? := by
  rcases h with h | h
  · obtain ⟨v, hlower, hupper⟩ := Range.isLowerOnly_iff.1 h
    simp [ceiling?, isUpperOnly, upperEnd?, hlower, hupper]
  · rw [ceiling?_eq (List.forall_mem_singleton.2 h), List.findSome?_singleton]

end Range

namespace Expression

/-- The operands along the right edge of an expression: on the way down through the right operands
the left ones, and the last right one. -/
def rightEdge : Expression → List Expression
  | boolean _ left right => left :: right.rightEdge
  | e => [e]

variable (c : Compiler) (resource : String)

/-- The ranges that the clauses of an expression are compiled to, from left to right. -/
def ranges : Expression → List Range
  | clause cl => ((clause cl).range? c resource).toList
  | boolean _ left right => left.ranges ++ right.ranges
  | sorted subtree _ => subtree.ranges
  | assigned _ _ subtree => subtree.ranges

/-- Conjunctions, nested in any way, of clauses that are compiled to one-sided ranges of a field. -/
inductive Bounds (field : String) : Expression → Prop where
  | clause {cl : Clause} {r : Range} (hcl : c.clauseQuery resource cl = .ok (.range r))
      (hfield : r.field = field) (hside : r.OneSided) : Bounds field (.clause cl)
  | and {left right : Expression} (hleft : Bounds field left) (hright : Bounds field right) :
      Bounds field (.boolean .and left right)

variable {c resource} {field : String}

theorem ranges_clause {cl : Clause} {r : Range}
    (h : c.clauseQuery resource cl = .ok (.range r)) :
    (Expression.clause cl).ranges c resource = [r] := by
  have hr : (Expression.clause cl).range? c resource = some r := mem_range?.2 h
  rw [ranges, hr, Option.toList_some]

namespace Bounds

variable {e : Expression}

theorem ranges_ne_nil (h : e.Bounds c resource field) : e.ranges c resource ≠ [] := by
  induction h with
  | clause hcl _ _ =>
      rw [ranges_clause hcl]
      exact List.cons_ne_nil _ _
  | and _ _ ihleft _ => exact List.append_ne_nil_of_left_ne_nil ihleft _

theorem oneSided (h : e.Bounds c resource field) : ∀ r ∈ e.ranges c resource, r.OneSided := by
  induction h with
  | clause hcl _ hside =>
      rw [ranges_clause hcl]
      exact List.forall_mem_singleton.2 hside
  | and _ _ ihleft ihright => exact List.forall_mem_append.2 ⟨ihleft, ihright⟩

/-- Clauses without a lower bound are all bounded from above. -/
theorem forall_isUpperOnly_iff (h : e.Bounds c resource field) :
    (∀ r ∈ e.ranges c resource, r.isUpperOnly = true) ↔
      (e.ranges c resource).findSome? Range.lowerEnd? = none := by
  rw [List.findSome?_eq_none_iff]
  exact forall₂_congr fun r hr => (h.oneSided r hr).isUpperOnly_iff

theorem of_mem_rightEdge (h : e.Bounds c resource field) {o : Expression}
    (ho : o ∈ e.rightEdge) : o.Bounds c resource field := by
  induction h with
  | clause hcl hfield hside =>
      obtain rfl := List.mem_singleton.1 ho
      exact .clause hcl hfield hside
  | and hleft _ _ ihright =>
      rcases List.mem_cons.1 ho with rfl | ho
      · exact hleft
      · exact ihright ho

/-- Without lower bounds the first upper bound is the one along the right edge. -/
theorem findSome?_rightEdge (h : e.Bounds c resource field)
    (hupper : ∀ r ∈ e.ranges c resource, r.isUpperOnly = true) :
    (e.rightEdge.findSome? fun o => Range.ceiling? (o.ranges c resource)) =
      (e.ranges c resource).findSome? Range.upperEnd? := by
  cases h with
  | @clause cl =>
      have hedge : (Expression.clause cl).rightEdge = [.clause cl] := rfl
      rw [hedge, List.findSome?_singleton]
      exact Range.ceiling?_eq hupper
  | @and left right hleft hright =>
      have hupper' := (List.forall_mem_append.1 hupper).1
      have hsome := (Range.isSome_ceiling?_iff hleft.ranges_ne_nil).2 hupper'
      obtain ⟨v, hv⟩ := Option.isSome_iff_exists.1 hsome
      rw [rightEdge, List.findSome?_cons, hv, ranges, List.findSome?_append,
        ← Range.ceiling?_eq hupper', hv, Option.some_or]

end Bounds

end Expression

namespace Compiler

variable {c : Compiler} {resource field : String} {e : Expression}

/-- A conjunction of one-sided ranges is one range, by induction on the conjunction. -/
theorem exists_range_of_bounds (h : e.Bounds c resource field) :
    ∃ r, c.expressionQuery resource e = .ok (.range r) ∧ r.field = field ∧
      r.lowerEnd? = (e.ranges c resource).findSome? Range.lowerEnd? ∧
      r.upperEnd? = e.rightEdge.findSome? fun o => Range.ceiling? (o.ranges c resource) := by
  induction h with
  | @clause cl r hcl hfield hside =>
      have hedge : (Expression.clause cl).rightEdge = [.clause cl] := rfl
      refine ⟨r, hcl, hfield, ?_, ?_⟩
      · rw [Expression.ranges_clause hcl, List.findSome?_singleton]
      · rw [hedge, List.findSome?_singleton, Expression.ranges_clause hcl, hside.ceiling?_singleton]
  | @and left right hleft hright ihleft ihright =>
      obtain ⟨r, hr, hrfield, hrlower, hrupper⟩ := ihleft
      obtain ⟨s, hs, hsfield, hslower, hsupper⟩ := ihright
      have hfield : r.field = s.field := hrfield.trans hsfield.symm
      refine ⟨r.collapse s, ?_, (Range.field_collapse hfield).trans hrfield, ?_, ?_⟩
      · exact expressionQuery_boolean_eq_ok_iff.2 ⟨_, _, _, rfl, hr, hs, (if_pos hfield).symm⟩
      · rw [Range.lowerEnd?_collapse, hrlower, hslower, Expression.ranges, List.findSome?_append]
      · rw [Range.upperEnd?_collapse, hrlower, Expression.rightEdge, List.findSome?_cons]
        by_cases hupper : ∀ t ∈ left.ranges c resource, t.isUpperOnly = true
        · have hsome := (Range.isSome_ceiling?_iff hleft.ranges_ne_nil).2 hupper
          obtain ⟨v, hv⟩ := Option.isSome_iff_exists.1 hsome
          rw [hleft.forall_isUpperOnly_iff.1 hupper, if_neg (by simp), hrupper,
            hleft.findSome?_rightEdge hupper, ← Range.ceiling?_eq hupper, hv]
        · have hlower := mt hleft.forall_isUpperOnly_iff.2 hupper
          rw [if_pos (Option.isSome_iff_ne_none.2 hlower), Range.ceiling?_eq_none hupper, hsupper]

/-- **Which bounds are left of a conjunction.** Conjunctions of one-sided ranges of one field,
nested in any way, are one range of the field. Its lower end is that of the first clause with a
lower bound, so there is one if any clause has one. Its upper end is the first one of the first
operand along the right edge in which no clause has a lower bound, so there is one only if there is
such an operand. -/
theorem expressionQuery_of_bounds (c : Compiler) (resource field : String) (e : Expression)
    (h : e.Bounds c resource field) :
    ∃ r, c.expressionQuery resource e = .ok (.range r) ∧ r.field = field ∧
      r.lowerEnd? = (e.ranges c resource).findSome? Range.lowerEnd? ∧
      r.upperEnd? = (e.rightEdge.findSome? fun o => Range.ceiling? (o.ranges c resource)) ∧
      (r.lower.isSome = true ↔ ∃ s ∈ e.ranges c resource, s.isLowerOnly = true) ∧
      (r.upper.isSome = true ↔
        ∃ o ∈ e.rightEdge, ∀ s ∈ o.ranges c resource, s.isUpperOnly = true) := by
  obtain ⟨r, hr, hfield, hlower, hupper⟩ := exists_range_of_bounds h
  refine ⟨r, hr, hfield, hlower, hupper, ?_, ?_⟩
  · rw [← Range.isSome_lowerEnd?, hlower, List.findSome?_isSome_iff]
    refine exists_congr fun s => and_congr_right fun hs => ?_
    exact ((h.oneSided s hs).isLowerOnly_iff).symm
  · rw [← Range.isSome_upperEnd?, hupper, List.findSome?_isSome_iff]
    refine exists_congr fun o => and_congr_right fun ho => ?_
    exact Range.isSome_ceiling?_iff (h.of_mem_rightEdge ho).ranges_ne_nil

/-- More than two copies. -/
def overTwo : Expression := .clause ⟨"copies", ">", "2", []⟩

/-- More than five copies. -/
def overFive : Expression := .clause ⟨"copies", ">", "5", []⟩

/-- Fewer than ten copies. -/
def underTen : Expression := .clause ⟨"copies", "<", "10", []⟩

theorem bounds_overTwo :
    overTwo.Bounds ⟨.books, .standard, .standard, .standard⟩ "book" "copies" :=
  .clause (r := .atLeast "copies" (.long 2) false) (by decide +kernel) rfl (Or.inl rfl)

theorem bounds_overFive :
    overFive.Bounds ⟨.books, .standard, .standard, .standard⟩ "book" "copies" :=
  .clause (r := .atLeast "copies" (.long 5) false) (by decide +kernel) rfl (Or.inl rfl)

theorem bounds_underTen :
    underTen.Bounds ⟨.books, .standard, .standard, .standard⟩ "book" "copies" :=
  .clause (r := .atMost "copies" (.long 10) false) (by decide +kernel) rfl (Or.inr rfl)

/-- With the upper bound to the right both ends are kept, and of the two lower bounds the first. -/
theorem expressionQuery_overFive_underTen :
    let c : Compiler := ⟨.books, .standard, .standard, .standard⟩
    let e : Expression := .boolean .and overFive (.boolean .and overTwo underTen)
    e.Bounds c "book" "copies" ∧
      ∃ r, c.expressionQuery "book" e = .ok (.range r) ∧ r.field = "copies" ∧
        r.lowerEnd? = some (.long 5, false) ∧ r.upperEnd? = some (.long 10, false) := by
  intro c e
  have he : e.Bounds c "book" "copies" := .and bounds_overFive (.and bounds_overTwo bounds_underTen)
  obtain ⟨r, hr, hfield, hlower, hupper, -, -⟩ := expressionQuery_of_bounds c "book" "copies" e he
  exact ⟨he, r, hr, hfield, hlower.trans (by decide +kernel), hupper.trans (by decide +kernel)⟩

/-- Not all bounds of a conjunction are kept: a second lower bound to the right of both ends takes
the upper one away. -/
theorem not_forall_bounds_kept :
    ¬ ∀ (c : Compiler) (resource field : String) (e : Expression), e.Bounds c resource field →
      (∃ s ∈ e.ranges c resource, s.lower.isSome = true) →
      (∃ s ∈ e.ranges c resource, s.upper.isSome = true) →
      ∃ r, c.expressionQuery resource e = .ok (.range r) ∧ r.field = field ∧
        r.lower.isSome = true ∧ r.upper.isSome = true := by
  intro h
  obtain ⟨r, hr, -, -, hupper⟩ := h ⟨.books, .standard, .standard, .standard⟩ "book" "copies"
    (.boolean .and (.boolean .and overTwo underTen) overFive)
    (.and (.and bounds_overTwo bounds_underTen) bounds_overFive) (by decide +kernel)
    (by decide +kernel)
  have hopen : expressionQuery ⟨.books, .standard, .standard, .standard⟩ "book"
      (.boolean .and (.boolean .and overTwo underTen) overFive) =
        .ok (.range (.atLeast "copies" (.long 2) false)) := by
    decide +kernel
  obtain rfl := Query.range.inj (Except.ok.inj (hr.symm.trans hopen))
  cases hupper

end Compiler

end CatalogSearch
