import CatalogSearch.Proofs.Text.Words
import CatalogSearch.Text.Case
import Mathlib.Data.Char

/-!
Upper case and white space. White space has no case, and no other character has white space in its
upper case, so the words of a text in upper case are the words of the text, each in upper case.
-/

namespace CatalogSearch.Text

variable {c : Char} {cs : List Char}

/-! ### The tables -/

theorem isBlank_eq_false_iff :
    isBlank c = false ↔ ∀ range ∈ blankRanges, c.toNat < range.1 ∨ range.2 < c.toNat := by
  rw [isBlank, ← Bool.not_eq_true, inRanges_eq_true_iff]
  push Not
  refine forall₂_congr fun range _ => ?_
  omega

theorem toUpper_ascii : ∀ c : Char, c.toNat < 0x80 →
    isBlank c.toUpper = isBlank c ∧ (isBlank c = true → c.toUpper = c) :=
  forall_ascii (by decide +kernel)

/-- Neither the code points of a run nor their images are white space. -/
theorem upperRuns_apart : ∀ run ∈ upperRuns, ∀ range ∈ blankRanges,
    (run.last < range.1 ∨ range.2 < run.first) ∧
      (run.last + run.shift < range.1 ∨ range.2 < run.first + run.shift) := by
  decide +kernel

theorem upperSpecial_apart : ∀ entry ∈ upperSpecial, inRanges blankRanges entry.1 = false ∧
    entry.2 ≠ [] ∧ ∀ code ∈ entry.2, isBlank (Char.ofNat code) = false := by
  decide +kernel

theorem image?_eq_some {run : CaseRun} {code : Nat} {d : Char} (h : run.image? code = some d) :
    run.first ≤ code ∧ code ≤ run.last ∧ d = Char.ofNat ((code : Int) + run.shift).toNat := by
  rw [CaseRun.image?] at h
  split at h
  · next hin =>
      simp only [Bool.and_eq_true, decide_eq_true_eq] at hin
      exact ⟨hin.1.1, hin.1.2, (Option.some.inj h).symm⟩
  · cases h

/-- What is no code point becomes the first one. -/
theorem toNat_ofNat_eq_or (code : Nat) :
    (Char.ofNat code).toNat = code ∨ (Char.ofNat code).toNat = 0 := by
  by_cases hvalid : code.isValidChar
  · have hchar : Char.ofNat code = Char.ofNatAux code hvalid := dif_pos hvalid
    rw [hchar]
    exact Or.inl rfl
  · have hchar : Char.ofNat code = Char.ofNat 0 := dif_neg hvalid
    rw [hchar]
    exact Or.inr rfl

/-- No image of a run is white space. -/
theorem isBlank_of_image? {run : CaseRun} (hrun : run ∈ upperRuns) {code : Nat} {d : Char}
    (h : run.image? code = some d) : isBlank d = false := by
  obtain ⟨hfirst, hlast, rfl⟩ := image?_eq_some h
  rw [isBlank_eq_false_iff]
  intro range hrange
  have hapart := (upperRuns_apart run hrun range hrange).2
  have hpositive : ∀ range ∈ blankRanges, 0 < range.1 := by decide
  have hrange' := hpositive range hrange
  rcases toNat_ofNat_eq_or ((code : Int) + run.shift).toNat with hcode | hcode <;> omega

/-! ### Characters -/

/-- In ASCII, what comes before the small letters is its own upper case. -/
theorem upperChar_of_lt (h : c < 'a') : upperChar c = [c] := by
  have hascii : c.toNat < 0x80 := Nat.lt_trans h (by decide)
  have hlower : ¬ ('a'.val ≤ c.val ∧ c.val ≤ 'z'.val) := fun hc => absurd hc.1 (not_le.2 h)
  have hupper : c.toUpper = c := dif_neg hlower
  rw [upperChar, if_pos hascii, hupper]

theorem upperChar_of_isBlank (hc : isBlank c = true) : upperChar c = [c] := by
  rw [upperChar]
  split
  · next hascii =>
      rw [(toUpper_ascii c hascii).2 hc]
  · have hspecial : upperSpecial.lookup c.toNat = none := by
      rw [List.lookup_eq_none_iff]
      intro entry hentry
      have hapart := (upperSpecial_apart entry hentry).1
      rw [bne_iff_ne]
      intro hcode
      rw [← hcode, ← isBlank, hc] at hapart
      cases hapart
    have hruns : upperRuns.findSome? (·.image? c.toNat) = none := by
      rw [List.findSome?_eq_none_iff]
      intro run hrun
      rw [Option.eq_none_iff_forall_ne_some]
      intro d hd
      obtain ⟨hfirst, hlast, -⟩ := image?_eq_some hd
      obtain ⟨range, hrange, hin⟩ := inRanges_eq_true_iff.1 hc
      have hapart := (upperRuns_apart run hrun range hrange).1
      omega
    rw [mapCase, hspecial, hruns]
    rfl

theorem upperChar_of_not_isBlank (hc : isBlank c = false) :
    upperChar c ≠ [] ∧ ∀ d ∈ upperChar c, isBlank d = false := by
  rw [upperChar]
  split
  · next hascii =>
      simpa using (toUpper_ascii c hascii).1.trans hc
  · rw [mapCase]
    split
    · next codes hcodes =>
        obtain ⟨before, after, hspecial, -⟩ := List.lookup_eq_some_iff.1 hcodes
        have hentry : (c.toNat, codes) ∈ upperSpecial := by simp [hspecial]
        obtain ⟨-, hne, hblank⟩ := upperSpecial_apart _ hentry
        simpa [hne] using hblank
    · cases hruns : upperRuns.findSome? (·.image? c.toNat) with
      | none => simpa using hc
      | some d =>
          obtain ⟨run, hrun, hd⟩ := List.exists_of_findSome?_eq_some hruns
          simpa using isBlank_of_image? hrun hd

/-! ### Texts -/

theorem upper_cons (c : Char) (cs : List Char) : upper (c :: cs) = upperChar c ++ upper cs := rfl

theorem upper_append (cs ds : List Char) : upper (cs ++ ds) = upper cs ++ upper ds :=
  List.flatMap_append

theorem upper_of_forall (h : ∀ c ∈ cs, upperChar c = [c]) : upper cs = cs := by
  induction cs with
  | nil => rfl
  | cons c cs ih =>
      rw [upper_cons, h c List.mem_cons_self, ih fun d hd => h d (List.mem_cons_of_mem c hd)]
      rfl

theorem upper_eq_nil_iff : upper cs = [] ↔ cs = [] := by
  refine ⟨fun h => ?_, ?_⟩
  · cases cs with
    | nil => rfl
    | cons c cs =>
        rw [upper_cons, List.append_eq_nil_iff] at h
        cases hc : isBlank c with
        | true =>
            rw [upperChar_of_isBlank hc] at h
            cases h.1
        | false => exact absurd h.1 (upperChar_of_not_isBlank hc).1
  · rintro rfl
    rfl

/-- White space stays where it is. -/
theorem mem_upper_iff (hc : isBlank c = true) : c ∈ upper cs ↔ c ∈ cs := by
  rw [upper, List.mem_flatMap]
  constructor
  · rintro ⟨d, hd, hmem⟩
    cases hblank : isBlank d with
    | true =>
        rw [upperChar_of_isBlank hblank, List.mem_singleton] at hmem
        exact hmem ▸ hd
    | false =>
        rw [(upperChar_of_not_isBlank hblank).2 c hmem] at hc
        cases hc
  · intro hmem
    exact ⟨c, hmem, by rw [upperChar_of_isBlank hc]; exact List.mem_singleton_self c⟩

theorem trimStart_append_of_not_isBlank {ds : List Char} (hne : cs ≠ [])
    (hcs : ∀ c ∈ cs, isBlank c = false) : trimStart (cs ++ ds) = cs ++ ds := by
  obtain ⟨c, rest, rfl⟩ := List.exists_cons_of_ne_nil hne
  exact trimStart_cons (hcs c List.mem_cons_self) (rest ++ ds)

theorem trimStart_upper (cs : List Char) : trimStart (upper cs) = upper (trimStart cs) := by
  induction cs with
  | nil => rfl
  | cons c cs ih =>
      rw [upper_cons]
      cases hc : isBlank c with
      | true =>
          rw [upperChar_of_isBlank hc, List.singleton_append, trimStart_cons_blank hc, ih,
            trimStart_cons_blank hc]
      | false =>
          obtain ⟨hne, hblank⟩ := upperChar_of_not_isBlank hc
          rw [trimStart_append_of_not_isBlank hne hblank, trimStart_cons hc, upper_cons]

theorem squeeze_upper (cs : List Char) : squeeze (upper cs) = upper (squeeze cs) := by
  induction cs with
  | nil => rfl
  | cons c cs ih =>
      rw [upper_cons]
      cases hc : isBlank c with
      | true =>
          rw [upperChar_of_isBlank hc, List.singleton_append, squeeze_cons_blank hc, ih,
            trimStart_upper, squeeze_cons_blank hc, upper_cons, upperChar_of_isBlank (by decide)]
          rfl
      | false =>
          rw [squeeze_append (upperChar_of_not_isBlank hc).2, ih, squeeze_cons hc, upper_cons]

theorem blankSeparated_upper (cs : List Char) :
    blankSeparated (upper cs) = (blankSeparated cs).map upper := by
  induction cs with
  | nil => rfl
  | cons c cs ih =>
      rw [upper_cons]
      cases hc : isBlank c with
      | true =>
          rw [upperChar_of_isBlank hc, List.singleton_append, blankSeparated_cons_blank hc,
            blankSeparated_cons_blank hc, ih]
          rfl
      | false =>
          obtain ⟨word, rest, hcs⟩ := List.exists_cons_of_ne_nil (blankSeparated_ne_nil cs)
          rw [hcs, List.map_cons] at ih
          rw [blankSeparated_append (upperChar_of_not_isBlank hc).2 ih, blankSeparated_cons hc hcs,
            List.map_cons, upper_cons]

theorem words_upper (cs : List Char) : words (upper cs) = (words cs).map upper := by
  have hempty : ∀ word : List Char, (upper word).isEmpty = word.isEmpty := by
    intro word
    rw [Bool.eq_iff_iff, List.isEmpty_iff, List.isEmpty_iff, upper_eq_nil_iff]
  simp only [words, blankSeparated_upper, List.filter_map, Function.comp_def, hempty]

end CatalogSearch.Text
