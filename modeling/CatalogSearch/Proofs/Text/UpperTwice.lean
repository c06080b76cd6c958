import CatalogSearch.Proofs.Text.Upper

/-!
Upper case of what is in upper case already. The images of a case mapping are characters that it
keeps: those of a run are in no run, or fall between the code points of one that takes every second
of them, and none of them has several characters as its upper case. So upper case is reached at
once. Hyphens are in the upper case of nothing but hyphens.
-/

namespace CatalogSearch.Text

variable {c d : Char}

namespace CaseRun

/-- The first code point that a run leads to. -/
def firstImage (run : CaseRun) : Nat := ((run.first : Int) + run.shift).toNat

def lastImage (run : CaseRun) : Nat := ((run.last : Int) + run.shift).toNat

/-- The images of a run are no code points of another: they lie before or behind it, or between
its code points, if it takes every second one. -/
def leadsOutOf (run other : CaseRun) : Bool :=
  Nat.blt run.lastImage other.first || Nat.blt other.last run.firstImage ||
    (other.step == 2 && (run.step == 2 || run.first == run.last) &&
      (run.firstImage + other.first) % 2 == 1)

end CaseRun

/-! ### The tables -/

theorem upperRuns_leadsOutOf : ∀ run ∈ upperRuns, ∀ other ∈ upperRuns,
    run.leadsOutOf other = true := by
  have hall : (upperRuns.all fun run => upperRuns.all run.leadsOutOf) = true := by decide +kernel
  simpa only [List.all_eq_true] using hall

theorem upperRuns_leadOutOf_upperSpecial : ∀ run ∈ upperRuns, ∀ entry ∈ upperSpecial,
    run.lastImage < entry.1 ∨ entry.1 < run.firstImage := by
  have hall : (upperRuns.all fun run => upperSpecial.all fun entry =>
      Nat.blt run.lastImage entry.1 || Nat.blt entry.1 run.firstImage) = true := by
    decide +kernel
  simpa only [List.all_eq_true, Bool.or_eq_true, Nat.blt_eq] using hall

/-- The images of runs that are in ASCII are capital letters. -/
theorem upperRuns_ascii : ∀ run ∈ upperRuns,
    0x80 ≤ run.firstImage ∨ 0x41 ≤ run.firstImage ∧ run.lastImage ≤ 0x5A := by
  decide +kernel

theorem upperSpecial_kept : ∀ entry ∈ upperSpecial, ∀ code ∈ entry.2,
    upperChar (Char.ofNat code) = [Char.ofNat code] ∧ Char.ofNat code ≠ '-' := by
  decide +kernel

theorem toUpper_kept : ∀ c : Char, c.toNat < 0x80 →
    upperChar c.toUpper = [c.toUpper] ∧ (c.toUpper = '-' → c = '-') :=
  forall_ascii (by decide +kernel)

/-! ### Characters -/

theorem mod_step_of_image? {run : CaseRun} {code : Nat} (h : run.image? code = some d) :
    (code - run.first) % run.step = 0 := by
  rw [CaseRun.image?] at h
  split at h
  · next hin =>
      simp only [Bool.and_eq_true, decide_eq_true_eq, beq_iff_eq] at hin
      exact hin.2
  · cases h

/-- No run has a code point that a run leads to. -/
theorem image?_of_leadsOutOf {run other : CaseRun} (hlarge : 0x80 ≤ run.firstImage)
    (hout : run.leadsOutOf other = true) {code : Nat} (hfirst : run.first ≤ code)
    (hlast : code ≤ run.last) (hstep : (code - run.first) % run.step = 0) :
    other.image? ((code : Int) + run.shift).toNat = none := by
  rw [Option.eq_none_iff_forall_ne_some]
  intro e he
  obtain ⟨hother, hother', -⟩ := image?_eq_some he
  have hmod := mod_step_of_image? he
  unfold CaseRun.firstImage at hlarge
  simp only [CaseRun.leadsOutOf, CaseRun.firstImage, CaseRun.lastImage, Bool.or_eq_true,
    Bool.and_eq_true, Nat.blt_eq, beq_iff_eq] at hout
  rcases hout with (hbefore | hbehind) | ⟨⟨htwo, hrun⟩, hodd⟩
  · omega
  · omega
  · rw [htwo] at hmod
    rcases hrun with hrun | hrun
    · rw [hrun] at hstep
      omega
    · omega

theorem upperChar_of_unmapped (hlarge : ¬ c.toNat < 0x80)
    (hspecial : upperSpecial.lookup c.toNat = none)
    (hruns : upperRuns.findSome? (·.image? c.toNat) = none) : upperChar c = [c] := by
  rw [upperChar, if_neg hlarge, mapCase, hspecial, hruns]
  rfl

/-- No table has an image of a run that leads out of ASCII. -/
theorem upperChar_of_largeImage {run : CaseRun} (hrun : run ∈ upperRuns)
    (hlarge : 0x80 ≤ run.firstImage) {code : Nat} (hfirst : run.first ≤ code)
    (hlast : code ≤ run.last) (hstep : (code - run.first) % run.step = 0)
    (hd : d.toNat = ((code : Int) + run.shift).toNat) : upperChar d = [d] := by
  have hbetween : run.firstImage ≤ d.toNat ∧ d.toNat ≤ run.lastImage := by
    unfold CaseRun.firstImage CaseRun.lastImage
    omega
  have hspecial : upperSpecial.lookup d.toNat = none := by
    rw [List.lookup_eq_none_iff]
    intro entry hentry
    have hapart := upperRuns_leadOutOf_upperSpecial run hrun entry hentry
    rw [bne_iff_ne]
    omega
  have hruns : upperRuns.findSome? (·.image? d.toNat) = none := by
    rw [List.findSome?_eq_none_iff]
    intro other hother
    have hout := upperRuns_leadsOutOf run hrun other hother
    rw [hd]
    exact image?_of_leadsOutOf hlarge hout hfirst hlast hstep
  exact upperChar_of_unmapped (by omega) hspecial hruns

/-- The images of runs are their own upper case. -/
theorem upperChar_of_image? {run : CaseRun} (hrun : run ∈ upperRuns) {code : Nat}
    (h : run.image? code = some d) : upperChar d = [d] ∧ d ≠ '-' := by
  have hstep := mod_step_of_image? h
  obtain ⟨hfirst, hlast, hd⟩ := image?_eq_some h
  have hbetween : run.firstImage ≤ ((code : Int) + run.shift).toNat ∧
      ((code : Int) + run.shift).toNat ≤ run.lastImage := by
    unfold CaseRun.firstImage CaseRun.lastImage
    omega
  have hsmall : d.toNat < 0x61 → upperChar d = [d] := fun hlt => upperChar_of_lt hlt
  have hhyphen : d.toNat ≠ 0x2D → d ≠ '-' := by
    rintro hne rfl
    exact hne rfl
  -- A code point that stands for no character would become the one with number zero.
  rcases toNat_ofNat_eq_or ((code : Int) + run.shift).toNat with hcode | hzero
  · rw [← hd] at hcode
    rcases upperRuns_ascii run hrun with hlarge | ⟨hcapital, hcapital'⟩
    · have hkept := upperChar_of_largeImage hrun hlarge hfirst hlast hstep hcode
      exact ⟨hkept, hhyphen (by omega)⟩
    · exact ⟨hsmall (by omega), hhyphen (by omega)⟩
  · rw [← hd] at hzero
    exact ⟨hsmall (by omega), hhyphen (by omega)⟩

/-- What is in the upper case of a character is its own upper case. -/
theorem upperChar_of_mem_upperChar (h : d ∈ upperChar c) :
    upperChar d = [d] ∧ (d = '-' → c = '-') := by
  rw [upperChar] at h
  split at h
  · next hascii =>
      obtain rfl := List.mem_singleton.1 h
      exact toUpper_kept c hascii
  · next hascii =>
      rw [mapCase] at h
      split at h
      · next codes hcodes =>
          obtain ⟨before, after, hspecial, -⟩ := List.lookup_eq_some_iff.1 hcodes
          have hentry : (c.toNat, codes) ∈ upperSpecial := by simp [hspecial]
          obtain ⟨code, hcode, rfl⟩ := List.mem_map.1 h
          obtain ⟨hkept, hne⟩ := upperSpecial_kept _ hentry code hcode
          exact ⟨hkept, fun hhyphen => absurd hhyphen hne⟩
      · next hspecial =>
          cases hruns : upperRuns.findSome? (·.image? c.toNat) with
          | none =>
              rw [hruns] at h
              obtain rfl : d = c := List.mem_singleton.1 h
              exact ⟨upperChar_of_unmapped hascii hspecial hruns, id⟩
          | some e =>
              rw [hruns] at h
              obtain rfl : d = e := List.mem_singleton.1 h
              obtain ⟨run, hrun, hd⟩ := List.exists_of_findSome?_eq_some hruns
              obtain ⟨hkept, hne⟩ := upperChar_of_image? hrun hd
              exact ⟨hkept, fun hhyphen => absurd hhyphen hne⟩

/-! ### Texts -/

/-- Upper case is reached at once. -/
theorem upper_upper (cs : List Char) : upper (upper cs) = upper cs := by
  refine upper_of_forall fun d hd => ?_
  obtain ⟨c, -, hc⟩ := List.mem_flatMap.1 hd
  exact (upperChar_of_mem_upperChar hc).1

theorem hyphen_mem_upper_iff {cs : List Char} : '-' ∈ upper cs ↔ '-' ∈ cs := by
  rw [upper, List.mem_flatMap]
  constructor
  · rintro ⟨c, hc, hmem⟩
    exact (upperChar_of_mem_upperChar hmem).2 rfl ▸ hc
  · intro hmem
    exact ⟨'-', hmem, by decide⟩

end CatalogSearch.Text
