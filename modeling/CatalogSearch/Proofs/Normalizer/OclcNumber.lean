import CatalogSearch.Normalizer.Identifier
import CatalogSearch.Proofs.Text.Words
import Mathlib.Logic.Function.Iterate

/-!
OCLC numbers, normalized more than once. One pass removes one mark, the white space around it and
the zeros behind it. What is left may start with a mark or with white space again, and then another
pass changes it. So a number is in its last form exactly if there is nothing of the kind in front of
it. Digits behind a single mark are brought to that form at once, anything else after some passes.
-/

namespace CatalogSearch.Identifier

open Text

variable {cs ds : List Char}

/-- Nothing stands in front that does not belong to the number. -/
structure Bare (cs : List Char) : Prop where
  unmarked : ∀ mark ∈ oclcMarks, ¬ mark <+: cs
  isBlank_head? : ∀ c ∈ cs.head?, isBlank c = false
  zero : cs.head? = some '0' → cs = ['0']

/-! ### The steps of a pass -/

/-- What follows a mark and the white space behind it. -/
def afterMark (cs : List Char) : List Char := trimStart (dropMark oclcMarks (trim cs))

/-- A number without zeros in front, except that zero stays. -/
def withoutZeros (cs : List Char) : List Char :=
  if (cs.dropWhile (· == '0')).isEmpty && !cs.isEmpty then ['0'] else cs.dropWhile (· == '0')

theorem oclc_eq (cs : List Char) : oclc cs = withoutZeros (afterMark cs) := rfl

theorem dropMark_isSuffix (marks : List (List Char)) (cs : List Char) :
    dropMark marks cs <:+ cs := by
  rw [dropMark]
  split
  · exact List.drop_suffix _ cs
  · exact List.suffix_refl cs

theorem dropMark_of_unmarked {marks : List (List Char)} (h : ∀ mark ∈ marks, ¬ mark <+: cs) :
    dropMark marks cs = cs := by
  have hnone : marks.find? (fun mark => mark.isPrefixOf cs) = none := by
    refine List.find?_eq_none.2 fun mark hmark hprefix => ?_
    exact h mark hmark (List.isPrefixOf_iff_prefix.1 hprefix)
  rw [dropMark, hnone]

/-- No mark starts with a digit or with white space. -/
theorem unmarked_of_head? (h : ∀ c ∈ cs.head?, c.isDigit = true ∨ isBlank c = true) :
    ∀ mark ∈ oclcMarks, ¬ mark <+: cs := by
  intro mark hmark hprefix
  -- A test of the first character only: to decide an existence would try all characters there are.
  have hfirst : ∀ mark ∈ oclcMarks,
      mark.head?.any (fun c => !c.isDigit && !isBlank c) = true := by
    decide
  obtain ⟨c, hc, hneither⟩ := (Option.any_eq_true _ _).1 (hfirst mark hmark)
  rcases h c (mem_head?_of_isPrefix hprefix hc) with h | h
  · simp [h] at hneither
  · simp [h] at hneither

theorem length_dropMark_lt {mark : List Char} (hmark : mark ∈ oclcMarks) (h : mark <+: cs) :
    (dropMark oclcMarks cs).length < cs.length := by
  have hpositive : ∀ mark ∈ oclcMarks, 0 < mark.length := by decide
  rw [dropMark]
  split
  · next found hfound =>
      have hfirst := hpositive found (List.mem_of_find?_eq_some hfound)
      have hprefix := List.find?_some (p := fun mark : List Char => mark.isPrefixOf cs) hfound
      have hlength := (List.isPrefixOf_iff_prefix.1 hprefix).length_le
      rw [List.length_drop]
      omega
  · next hnone =>
      exact absurd (List.isPrefixOf_iff_prefix.2 h) (List.find?_eq_none.1 hnone mark hmark)

theorem trim_isInfix (cs : List Char) : trim cs <:+: cs :=
  (trimEnd_isPrefix _).isInfix.trans (List.dropWhile_suffix isBlank).isInfix

theorem afterMark_isSuffix (cs : List Char) : afterMark cs <:+ trim cs :=
  (List.dropWhile_suffix isBlank).trans (dropMark_isSuffix oclcMarks _)

/-- Either no zeros are in front any more, or there was nothing else. -/
theorem withoutZeros_cases (cs : List Char) :
    withoutZeros cs = cs.dropWhile (· == '0') ∨
      withoutZeros cs = ['0'] ∧ cs ≠ [] ∧ ∀ c ∈ cs, c = '0' := by
  rw [withoutZeros]
  split
  · next hzeros =>
      refine Or.inr ⟨rfl, ?_⟩
      simpa [and_comm] using hzeros
  · exact Or.inl rfl

theorem withoutZeros_isInfix (cs : List Char) : withoutZeros cs <:+: cs := by
  rcases withoutZeros_cases cs with h | ⟨h, hne, hzeros⟩
  · rw [h]
    exact (List.dropWhile_suffix _).isInfix
  · obtain ⟨c, rest, rfl⟩ := List.exists_cons_of_ne_nil hne
    obtain rfl := hzeros c List.mem_cons_self
    rw [h]
    exact (List.prefix_append ['0'] rest).isInfix

theorem zero_of_head?_withoutZeros (h : (withoutZeros cs).head? = some '0') :
    withoutZeros cs = ['0'] := by
  rcases withoutZeros_cases cs with hcs | ⟨hcs, -⟩
  · rw [hcs] at h
    have hhead := List.head?_dropWhile_not (· == '0') cs
    rw [h] at hhead
    cases hhead
  · exact hcs

theorem withoutZeros_of_zero (h : cs.head? = some '0' → cs = ['0']) : withoutZeros cs = cs := by
  cases cs with
  | nil => rfl
  | cons c rest =>
      by_cases hc : c = '0'
      · obtain rfl := hc
        rw [h rfl]
        rfl
      · have hdrop : (c :: rest).dropWhile (· == '0') = c :: rest :=
          List.dropWhile_cons_of_neg (by simpa using hc)
        rw [withoutZeros, hdrop, List.isEmpty_cons, Bool.false_and, if_neg Bool.false_ne_true]

/-! ### What a pass leaves -/

/-- A pass only removes characters at the ends. -/
theorem oclc_isInfix (cs : List Char) : oclc cs <:+: cs :=
  ((withoutZeros_isInfix _).trans (afterMark_isSuffix cs).isInfix).trans (trim_isInfix cs)

theorem endsInWord_oclc (cs : List Char) : EndsInWord (oclc cs) := by
  rw [oclc_eq]
  rcases withoutZeros_cases (afterMark cs) with h | ⟨h, -⟩
  · rw [h]
    exact (endsInWord_trimEnd _).of_isSuffix
      ((List.dropWhile_suffix _).trans (afterMark_isSuffix cs))
  · rw [h]
    rintro c ⟨⟩
    decide

theorem Bare.oclc_eq_self (h : Bare cs) (hend : EndsInWord cs) : oclc cs = cs := by
  have hafter : afterMark cs = cs := by
    rw [afterMark, trim_eq_self h.isBlank_head? hend, dropMark_of_unmarked h.unmarked]
    cases cs with
    | nil => rfl
    | cons c rest => exact trimStart_cons (h.isBlank_head? c rfl) rest
  rw [oclc_eq, hafter, withoutZeros_of_zero h.zero]

theorem length_oclc_le (cs : List Char) : (oclc cs).length ≤ (afterMark cs).length := by
  rw [oclc_eq]
  exact (withoutZeros_isInfix _).length_le

/-- A pass that changes nothing has found nothing to remove. -/
theorem bare_of_oclc_eq_self (h : oclc cs = cs) : Bare cs := by
  have hlength := length_oclc_le cs
  rw [h] at hlength
  have hstart : trimStart cs = cs := by
    refine (List.dropWhile_suffix isBlank).eq_of_length_le ?_
    have htrim := ((afterMark_isSuffix cs).length_le).trans (trimEnd_isPrefix _).length_le
    exact hlength.trans htrim
  have hend : EndsInWord cs := h ▸ endsInWord_oclc cs
  have hhead : ∀ c ∈ cs.head?, isBlank c = false := by
    intro c hc
    have hnot := List.head?_dropWhile_not isBlank cs
    rw [← trimStart, hstart] at hnot
    obtain ⟨rest, rfl⟩ := List.head?_eq_some_iff.1 hc
    exact hnot
  refine ⟨fun mark hmark hprefix => ?_, hhead, fun hzero => ?_⟩
  · have hshort := length_dropMark_lt hmark hprefix
    have hafter : (afterMark cs).length ≤ (dropMark oclcMarks cs).length := by
      rw [afterMark, trim_eq_self hhead hend]
      exact (List.dropWhile_suffix isBlank).length_le
    omega
  · rw [← h, oclc_eq] at hzero ⊢
    exact zero_of_head?_withoutZeros hzero

theorem oclc_oclc_eq_iff (cs : List Char) : oclc (oclc cs) = oclc cs ↔ Bare (oclc cs) :=
  ⟨bare_of_oclc_eq_self, fun h => h.oclc_eq_self (endsInWord_oclc cs)⟩

/-- Passes come to an end, as each but the last makes the text shorter. -/
theorem exists_iterate_oclc (cs : List Char) :
    ∃ n ≤ cs.length, oclc (oclc^[n] cs) = oclc^[n] cs := by
  induction hlength : cs.length using Nat.strong_induction_on generalizing cs with
  | h length ih =>
      by_cases hfixed : oclc cs = cs
      · exact ⟨0, Nat.zero_le _, hfixed⟩
      · have hshort : (oclc cs).length < length := by
          refine lt_of_le_of_ne (hlength ▸ (oclc_isInfix cs).length_le) fun heq => hfixed ?_
          exact (oclc_isInfix cs).eq_of_length (heq.trans hlength.symm)
        obtain ⟨n, hn, hfix⟩ := ih _ hshort (oclc cs) rfl
        exact ⟨n + 1, by omega, by rwa [Function.iterate_succ_apply]⟩

/-! ### Digits behind one mark -/

/-- An OCLC number as it may be written: digits, behind zeros, a mark or none, and white space. -/
structure OclcNumber where
  before : List Char
  mark : List Char
  gap : List Char
  zeros : Nat
  digits : List Char
  behind : List Char
  mark_mem : mark = [] ∨ mark ∈ oclcMarks := by decide
  isDigit_digits : ∀ c ∈ digits, c.isDigit = true := by exact List.all_eq_true.1 rfl
  head?_digits : digits.head? ≠ some '0' := by decide
  isBlank_before : ∀ c ∈ before, isBlank c = true := by exact List.all_eq_true.1 rfl
  isBlank_gap : ∀ c ∈ gap, isBlank c = true := by exact List.all_eq_true.1 rfl
  isBlank_behind : ∀ c ∈ behind, isBlank c = true := by exact List.all_eq_true.1 rfl

namespace OclcNumber

variable (n : OclcNumber)

def numeral : List Char := List.replicate n.zeros '0' ++ n.digits

def text : List Char := n.before ++ (n.mark ++ (n.gap ++ n.numeral) ++ n.behind)

/-- The number itself, which is zero if there is nothing but zeros. -/
def number : List Char := if n.digits = [] ∧ 0 < n.zeros then ['0'] else n.digits

theorem isDigit_numeral {c : Char} (h : c ∈ n.numeral) : c.isDigit = true := by
  rcases List.mem_append.1 h with h | h
  · rw [List.eq_of_mem_replicate h]
    rfl
  · exact n.isDigit_digits c h

theorem withoutZeros_numeral : withoutZeros n.numeral = n.number := by
  have hdigits : n.digits.dropWhile (· == '0') = n.digits := by
    have hhead := n.head?_digits
    cases hcs : n.digits with
    | nil => rfl
    | cons c rest =>
        rw [hcs] at hhead
        exact List.dropWhile_cons_of_neg (by simpa using hhead)
  have hdrop : n.numeral.dropWhile (· == '0') = n.digits := by
    rw [numeral, List.dropWhile_append_of_pos (by simp), hdigits]
  rw [withoutZeros, hdrop, number]
  refine if_congr ?_ rfl rfl
  simp only [numeral, Bool.and_eq_true, List.isEmpty_iff, Bool.not_eq_true', Bool.eq_false_iff, Ne,
    List.append_eq_nil_iff, List.replicate_eq_nil_iff, not_and]
  constructor
  · intro ⟨hnil, hzeros⟩
    exact ⟨hnil, Nat.pos_of_ne_zero fun hzero => hzeros hzero hnil⟩
  · intro ⟨hnil, hzeros⟩
    exact ⟨hnil, fun hzero => absurd hzero (Nat.ne_of_gt hzeros)⟩

/-- None of the marks is the beginning of another. -/
theorem dropMark_append {rest : List Char}
    (hrest : ∀ c ∈ rest.head?, c.isDigit = true ∨ isBlank c = true) :
    dropMark oclcMarks (n.mark ++ rest) = rest := by
  rcases n.mark_mem with hmark | hmark
  · rw [hmark, List.nil_append]
    exact dropMark_of_unmarked (unmarked_of_head? hrest)
  · simp only [oclcMarks, List.mem_cons, List.not_mem_nil, or_false] at hmark
    rcases hmark with hmark | hmark | hmark | hmark <;> rw [hmark] <;> rfl

theorem isBlank_of_mem_numeral {c : Char} (h : c ∈ n.numeral) : isBlank c = false :=
  isBlank_of_isAsciiDigit (n.isDigit_numeral h)

theorem trimStart_numeral : trimStart n.numeral = n.numeral := by
  cases hnumeral : n.numeral with
  | nil => rfl
  | cons c rest =>
      have hc : c ∈ n.numeral := by rw [hnumeral]; exact List.mem_cons_self
      exact trimStart_cons (n.isBlank_of_mem_numeral hc) rest

theorem trim_gap_numeral : trim (n.gap ++ n.numeral) = n.numeral := by
  have hnothing : ∀ c ∈ ([] : List Char), isBlank c = true := fun _ hc => nomatch hc
  have htrim := trim_append_append n.isBlank_gap hnothing n.numeral
  rw [List.append_nil] at htrim
  rw [htrim]
  exact trim_eq_self (fun _ hc => n.isBlank_of_mem_numeral (List.mem_of_mem_head? hc))
    fun _ hc => n.isBlank_of_mem_numeral (List.mem_of_mem_getLast? hc)

theorem isBlank_of_mem_mark {c : Char} (h : c ∈ n.mark) : isBlank c = false := by
  have hword : ∀ mark ∈ oclcMarks, mark.all (fun c => !isBlank c) = true := by decide
  rcases n.mark_mem with hmark | hmark
  · rw [hmark] at h
    cases h
  · simpa using List.all_eq_true.1 (hword _ hmark) c h

theorem trim_mark_append (hmark : n.mark ≠ []) {rest : List Char}
    (hrest : EndsInWord (n.mark ++ rest)) : trim (n.mark ++ rest) = n.mark ++ rest := by
  refine trim_eq_self (fun c hc => ?_) hrest
  rw [List.head?_append_of_ne_nil _ hmark] at hc
  exact n.isBlank_of_mem_mark (List.mem_of_mem_head? hc)

theorem trim_mark_gap (hmark : n.mark ≠ []) : trim (n.mark ++ n.gap) = n.mark := by
  have hnothing : ∀ c ∈ ([] : List Char), isBlank c = true := fun _ hc => nomatch hc
  have htrim := trim_append_append hnothing n.isBlank_gap n.mark
  have hword : EndsInWord n.mark := fun _ hc =>
    n.isBlank_of_mem_mark (List.mem_of_mem_getLast? hc)
  rw [List.nil_append] at htrim
  rw [htrim, ← List.append_nil n.mark]
  exact n.trim_mark_append hmark (by rwa [List.append_nil])

theorem head?_gap_numeral :
    ∀ c ∈ (n.gap ++ n.numeral).head?, c.isDigit = true ∨ isBlank c = true := by
  intro c hc
  rcases List.mem_append.1 (List.mem_of_mem_head? hc) with hgap | hnumeral
  · exact Or.inr (n.isBlank_gap c hgap)
  · exact Or.inl (n.isDigit_numeral hnumeral)

/-- White space between the mark and the numeral is all that trimming may leave. -/
theorem exists_trim_eq : ∃ rest, trim (n.mark ++ (n.gap ++ n.numeral)) = n.mark ++ rest ∧
    trimStart rest = n.numeral ∧ ∀ c ∈ rest.head?, c.isDigit = true ∨ isBlank c = true := by
  by_cases hmark : n.mark = []
  · refine ⟨n.numeral, ?_, n.trimStart_numeral, fun c hc => ?_⟩
    · rw [hmark, List.nil_append, List.nil_append, trim_gap_numeral]
    · exact Or.inl (n.isDigit_numeral (List.mem_of_mem_head? hc))
  · by_cases hnumeral : n.numeral = []
    · refine ⟨[], ?_, by rw [hnumeral]; rfl, fun c hc => nomatch hc⟩
      rw [hnumeral, List.append_nil, List.append_nil, n.trim_mark_gap hmark]
    · refine ⟨n.gap ++ n.numeral, n.trim_mark_append hmark ?_, ?_, n.head?_gap_numeral⟩
      · rw [← List.append_assoc]
        exact endsInWord_append _ hnumeral fun _ hc => n.isBlank_of_mem_numeral hc
      · rw [trimStart_append_of_forall n.isBlank_gap, trimStart_numeral]

theorem afterMark_text : afterMark n.text = n.numeral := by
  obtain ⟨rest, htrim, hstart, hhead⟩ := n.exists_trim_eq
  rw [afterMark, text, trim_append_append n.isBlank_before n.isBlank_behind, htrim,
    n.dropMark_append hhead, hstart]

theorem oclc_text : oclc n.text = n.number := by
  rw [oclc_eq, afterMark_text, withoutZeros_numeral]

theorem isDigit_number {c : Char} (h : c ∈ n.number) : c.isDigit = true := by
  rw [number] at h
  split at h
  · rw [List.mem_singleton.1 h]
    rfl
  · exact n.isDigit_digits c h

theorem bare_number : Bare n.number where
  unmarked := unmarked_of_head? fun _ hc =>
    Or.inl (n.isDigit_number (List.mem_of_mem_head? hc))
  isBlank_head? _ hc := isBlank_of_isAsciiDigit (n.isDigit_number (List.mem_of_mem_head? hc))
  zero h := by
    rw [← withoutZeros_numeral] at h ⊢
    exact zero_of_head?_withoutZeros h

end OclcNumber

/-- **A number is in its last form once nothing is left in front of it.** A second pass changes
nothing exactly if what the first one leaves starts with no mark, no white space and no zero, unless
it is zero; only a mark or white space can be left there. Every text comes to that form in no more
passes than it has characters. Digits behind a single mark or none come to it in the first one, and
are the number. -/
theorem oclc_passes (cs : List Char) :
    (oclc (oclc cs) = oclc cs ↔ Bare (oclc cs)) ∧
    ((oclc cs).head? = some '0' ↔ oclc cs = ['0']) ∧
    (∃ n ≤ cs.length, oclc (oclc^[n] cs) = oclc^[n] cs ∧ Bare (oclc^[n] cs)) ∧
    ∀ n : OclcNumber, n.text = cs →
      oclc cs = n.number ∧ oclc (oclc cs) = oclc cs ∧ Bare (oclc cs) := by
  refine ⟨oclc_oclc_eq_iff cs, ?_, ?_, ?_⟩
  · refine ⟨zero_of_head?_withoutZeros, fun h => ?_⟩
    rw [h]
    rfl
  · obtain ⟨n, hn, hfixed⟩ := exists_iterate_oclc cs
    exact ⟨n, hn, hfixed, bare_of_oclc_eq_self hfixed⟩
  · rintro n rfl
    have hbare : Bare (oclc n.text) := n.oclc_text ▸ n.bare_number
    exact ⟨n.oclc_text, (oclc_oclc_eq_iff n.text).2 hbare, hbare⟩

/-- White space, a mark, white space and zeros, all removed in one pass. -/
theorem oclc_passes_oneMark :
    oclc " ocm\t0042".toList = "42".toList ∧
      oclc (oclc " ocm\t0042".toList) = oclc " ocm\t0042".toList ∧
      Bare (oclc " ocm\t0042".toList) := by
  have hpasses := oclc_passes " ocm\t0042".toList
  exact hpasses.2.2.2
    { before := [' '], mark := ['o', 'c', 'm'], gap := ['\t'], zeros := 2, digits := ['4', '2'],
      behind := [] } (by decide)

/-- Of two marks the second one stays, and so do the zeros behind it. -/
theorem not_forall_oclc_bare :
    ¬ ∀ cs : List Char, oclc (oclc cs) = oclc cs ∧ Bare (oclc cs) := by
  intro h
  obtain ⟨hfixed, -⟩ := h "(OCoLC)ocm01234567".toList
  revert hfixed
  decide +kernel

end CatalogSearch.Identifier
