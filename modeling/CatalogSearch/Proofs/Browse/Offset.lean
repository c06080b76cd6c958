import CatalogSearch.Browse.Context

/-!
Ranges that end at an offset from an anchor of 64 bits. The end before the anchor is the exact
difference, cut off at zero. The end after it is the exact sum, cut off at the largest integer, but
an offset counts for no more than the largest integer itself: so a negative anchor with a greater
offset gives an end that lies below the exact one. Each offset replaces the ends of another one.
-/

namespace CatalogSearch.BrowseContext

/-- The context with a lower end for the range before the anchor and an upper end for the range
after it. -/
def withEnds (b : BrowseContext) (first last : Int) : BrowseContext :=
  { b with
    preceding := b.preceding.map fun r => { r with lower := some (.long first) }
    succeeding := b.succeeding.map fun r => { r with upper := some (.long last) } }

variable {b : BrowseContext} {a : Int}

theorem withEnds_withEnds (b : BrowseContext) (first last first' last' : Int) :
    (b.withEnds first last).withEnds first' last' = b.withEnds first' last' := by
  simp only [withEnds, Option.map_map]
  rfl

theorem withEnds_eq_iff {first last last' : Int} :
    b.withEnds first last = b.withEnds first last' ↔ b.succeeding = none ∨ last = last' := by
  cases hsucceeding : b.succeeding with
  | none => simp [withEnds, hsucceeding]
  | some r => simp [withEnds, hsucceeding]

theorem clampLong_sub (hmax : a ≤ longMax) (offset : Nat) :
    max (clampLong (a - min (offset : Int) longMax)) 0 = max (a - offset) 0 := by
  unfold clampLong longMin
  unfold longMax at *
  omega

theorem clampLong_add (hmin : longMin ≤ a) (offset : Nat) :
    clampLong (a + min (offset : Int) longMax) = min (a + min (offset : Int) longMax) longMax := by
  unfold clampLong longMax
  unfold longMin at *
  omega

theorem withRangeOffset_eq_withEnds (hanchor : b.anchor = .long a) (hmin : longMin ≤ a)
    (hmax : a ≤ longMax) (offset : Nat) :
    b.withRangeOffset offset =
      b.withEnds (max (a - offset) 0) (min (a + min (offset : Int) longMax) longMax) := by
  rw [withRangeOffset, hanchor]
  simp only [withEnds, clampLong_sub hmax, clampLong_add hmin]
  rw [hanchor]

/-- The end after the anchor is the exact one unless the anchor is negative and the offset greater
than the largest integer: then a part of the offset is lost that the sum has room for. -/
theorem min_add_min_eq_iff (hmin : longMin ≤ a) (hmax : a ≤ longMax) {offset : Nat} :
    min (a + min (offset : Int) longMax) longMax = min (a + offset) longMax ↔
      0 ≤ a ∨ (offset : Int) ≤ longMax := by
  unfold longMax longMin at *
  omega

/-- **What an offset does to a context.** With an anchor of 64 bits only the two open ends change.
The range before the anchor starts at the difference, but not below zero. The range after it ends at
the sum with as much of the offset as the largest integer, but not above that integer, so the end is
that of the whole offset unless the anchor is negative and the offset greater than the largest
integer. A second offset gives the context that it would have given alone. -/
theorem withRangeOffset_exact (b : BrowseContext) (a : Int) (hanchor : b.anchor = .long a)
    (hmin : longMin ≤ a) (hmax : a ≤ longMax) (offset : Nat) :
    b.withRangeOffset offset =
        b.withEnds (max (a - offset) 0) (min (a + min (offset : Int) longMax) longMax) ∧
      (b.withRangeOffset offset =
          b.withEnds (max (a - offset) 0) (min (a + offset) longMax) ↔
        b.succeeding = none ∨ 0 ≤ a ∨ (offset : Int) ≤ longMax) ∧
      ∀ second, (b.withRangeOffset offset).withRangeOffset second = b.withRangeOffset second := by
  have hends := withRangeOffset_eq_withEnds hanchor hmin hmax
  refine ⟨hends offset, ?_, ?_⟩
  · rw [hends offset, withEnds_eq_iff, min_add_min_eq_iff hmin hmax]
  · intro second
    have hanchor' : (b.withRangeOffset offset).anchor = .long a := by
      rw [hends offset]
      exact hanchor
    rw [withRangeOffset_eq_withEnds hanchor' hmin hmax, hends offset, withEnds_withEnds,
      hends second]

/-- From minus five copies on, with the largest offset: the page ends five below the largest
integer. -/
theorem withRangeOffset_minusFive :
    let r : Range := .atLeast "copies" (.long (-5)) true
    let b : BrowseContext := ⟨none, some r, [], .long (-5), none, some 20⟩
    longMin ≤ (-5 : Int) ∧ (-5 : Int) ≤ longMax ∧
      (b.withRangeOffset 18446744073709551615).succeeding =
        some { r with upper := some (.long 9223372036854775802) } := by
  intro r b
  have hmin : longMin ≤ (-5 : Int) := by decide
  have hmax : (-5 : Int) ≤ longMax := by decide
  have hends := (withRangeOffset_exact b (-5) rfl hmin hmax 18446744073709551615).1
  refine ⟨hmin, hmax, ?_⟩
  rw [hends]
  decide

/-- The end after a negative anchor is not always the exact sum within 64 bits. -/
theorem not_forall_withRangeOffset_exact :
    ¬ ∀ (b : BrowseContext) (a : Int) (offset second : Nat), b.anchor = .long a → longMin ≤ a →
      a ≤ longMax → offset < 18446744073709551616 → second < 18446744073709551616 →
      b.withRangeOffset offset =
          b.withEnds (max (a - offset) 0) (min (a + offset) longMax) ∧
        (b.withRangeOffset offset).withRangeOffset second = b.withRangeOffset second := by
  intro h
  have hexact := (h ⟨none, some (.atLeast "copies" (.long (-5)) true), [], .long (-5), none,
    some 20⟩ (-5) 18446744073709551615 0 rfl (by decide) (by decide) (by decide) (by decide)).1
  revert hexact
  decide

end CatalogSearch.BrowseContext
