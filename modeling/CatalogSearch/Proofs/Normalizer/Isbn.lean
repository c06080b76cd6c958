import CatalogSearch.Normalizer.Identifier
import CatalogSearch.Proofs.Text.UpperTwice
import Mathlib.Algebra.GroupWithZero.Nat

/-!
ISBNs, one form for each. Hyphens and white space are gone after one pass and all letters are in
upper case, so a second pass finds nothing to do. An ISBN of ten becomes one of thirteen whose check
digit is the only one that makes the sum of its digits divisible by ten, where every other digit
counts three times. So the ISBN of thirteen is the same text, however it is written, and the check
digit of the one of ten has no part in it.
-/

namespace CatalogSearch.Identifier

open Text

variable {cs ds : List Char}

/-! ### Tidying -/

/-- What is left of an ISBN without hyphens and white space. -/
def withoutGaps (cs : List Char) : List Char := cs.filter fun c => c ≠ '-' && !isBlank c

theorem isbnText_eq (cs : List Char) : isbnText cs = upper (withoutGaps cs) := rfl

theorem mem_withoutGaps_iff {c : Char} :
    c ∈ withoutGaps cs ↔ c ∈ cs ∧ c ≠ '-' ∧ isBlank c = false := by
  rw [withoutGaps, List.mem_filter]
  simp

theorem withoutGaps_of_forall (h : ∀ c ∈ cs, c ≠ '-' ∧ isBlank c = false) :
    withoutGaps cs = cs := by
  refine List.filter_eq_self.2 fun c hc => ?_
  simpa using h c hc

/-- Upper case brings back no hyphens and no white space. -/
theorem withoutGaps_isbnText (cs : List Char) : withoutGaps (isbnText cs) = isbnText cs := by
  refine withoutGaps_of_forall fun d hd => ⟨?_, ?_⟩
  · rintro rfl
    rw [isbnText_eq, hyphen_mem_upper_iff, mem_withoutGaps_iff] at hd
    exact hd.2.1 rfl
  · obtain ⟨c, hc, hmem⟩ := List.mem_flatMap.1 hd
    exact (upperChar_of_not_isBlank (mem_withoutGaps_iff.1 hc).2.2).2 d hmem

theorem isbnText_isbnText (cs : List Char) : isbnText (isbnText cs) = isbnText cs := by
  rw [isbnText_eq, withoutGaps_isbnText, isbnText_eq, upper_upper]

theorem upper_of_isDigit (h : ∀ c ∈ cs, c.isDigit = true) : upper cs = cs :=
  upper_of_forall fun c hc =>
    upperChar_of_lt (Nat.lt_of_le_of_lt (isAsciiDigit_iff.1 (h c hc)).2 (by decide))

theorem isbnText_of_isDigit (h : ∀ c ∈ cs, c.isDigit = true) : isbnText cs = cs := by
  have hgaps : withoutGaps cs = cs := by
    refine withoutGaps_of_forall fun c hc => ⟨?_, isBlank_of_isAsciiDigit (h c hc)⟩
    rintro rfl
    exact absurd (h '-' hc) (by decide)
  rw [isbnText_eq, hgaps, upper_of_isDigit h]

/-! ### Check digits -/

/-- The sum of the digits, in which those at odd places count three times. -/
def alternatingSum (cs : List Char) : Nat :=
  (cs.mapIdx fun i c => if i % 2 = 0 then digitValue c else 3 * digitValue c).sum

theorem weightedSum_eq_alternatingSum (cs : List Char) : weightedSum cs = alternatingSum cs := by
  unfold alternatingSum
  induction cs using weightedSum.induct with
  | case1 => rfl
  | case2 c => simp [weightedSum]
  | case3 c d rest ih =>
      have hshift : ∀ i, (i + 1 + 1) % 2 = i % 2 := fun i => by omega
      simp only [weightedSum, ih, List.mapIdx_cons, List.sum_cons, hshift]
      simp
      omega

/-- A digit at the end counts once behind an even number of digits. -/
theorem alternatingSum_concat (heven : cs.length % 2 = 0) (c : Char) :
    alternatingSum (cs ++ [c]) = alternatingSum cs + digitValue c := by
  unfold alternatingSum
  rw [List.mapIdx_append]
  simp [heven]

theorem digitValue_digitChar : ∀ n < 10, digitValue (Nat.digitChar n) = n ∧
    (Nat.digitChar n).isDigit = true := by
  decide

theorem digitValue_lt {c : Char} (h : c.isDigit = true) : digitValue c < 10 := by
  have hdigit := isAsciiDigit_iff.1 h
  unfold digitValue
  omega

theorem digitValue_inj {c d : Char} (hc : c.isDigit = true) (hd : d.isDigit = true)
    (h : digitValue c = digitValue d) : c = d := by
  have hc' := isAsciiDigit_iff.1 hc
  have hd' := isAsciiDigit_iff.1 hd
  unfold digitValue at h
  exact Char.toNat_inj.1 (by omega)

theorem isDigit_checkDigit (body : List Char) : (checkDigit body).isDigit = true :=
  (digitValue_digitChar _ (Nat.mod_lt _ (by decide))).2

theorem digitValue_checkDigit (body : List Char) :
    digitValue (checkDigit body) = (10 - alternatingSum body % 10) % 10 := by
  rw [← weightedSum_eq_alternatingSum]
  exact (digitValue_digitChar _ (Nat.mod_lt _ (by decide))).1

/-- Exactly one digit makes the sum divisible by ten. -/
theorem alternatingSum_concat_mod_iff {body : List Char} (heven : body.length % 2 = 0) {c : Char}
    (hc : c.isDigit = true) : alternatingSum (body ++ [c]) % 10 = 0 ↔ c = checkDigit body := by
  have hcheck := digitValue_checkDigit body
  have hlt := digitValue_lt hc
  rw [alternatingSum_concat heven]
  constructor
  · intro hsum
    exact digitValue_inj hc (isDigit_checkDigit body) (by omega)
  · rintro rfl
    omega

/-! ### ISBNs of ten and of thirteen -/

/-- A text is, but for hyphens, white space and case, an ISBN of ten with the first nine digits. -/
structure TenDigit (nine : List Char) (cs : List Char) : Prop where
  length_eq : nine.length = 9
  isDigit : ∀ c ∈ nine, c.isDigit = true
  exists_last : ∃ last, (last.isDigit = true ∨ last = 'X') ∧ isbnText cs = nine ++ [last]

/-- A text is, but for hyphens and white space, the ISBN of thirteen with the nine digits in its
middle and a check digit that is right. -/
structure ThirteenDigit (nine : List Char) (cs : List Char) : Prop where
  exists_check : ∃ check, check.isDigit = true ∧
    withoutGaps cs = ['9', '7', '8'] ++ nine ++ [check] ∧
    alternatingSum (withoutGaps cs) % 10 = 0

/-- The ISBN of thirteen of nine digits. -/
def thirteen (nine : List Char) : List Char :=
  ['9', '7', '8'] ++ nine ++ [checkDigit (['9', '7', '8'] ++ nine)]

theorem isIsbn10_iff : isIsbn10 cs = true ↔ ∃ nine last, cs = nine ++ [last] ∧ nine.length = 9 ∧
    (∀ c ∈ nine, c.isDigit = true) ∧ (last.isDigit = true ∨ last = 'X') := by
  simp only [isIsbn10, Bool.and_eq_true, beq_iff_eq, List.all_eq_true, Bool.or_eq_true,
    decide_eq_true_eq]
  constructor
  · intro ⟨⟨hlength, hdigits⟩, hlast⟩
    obtain ⟨last, hdrop⟩ := List.length_eq_one_iff.1 (by rw [List.length_drop, hlength] :
      (cs.drop 9).length = 1)
    refine ⟨cs.take 9, last, ?_, ?_, hdigits, ?_⟩
    · rw [← hdrop, List.take_append_drop]
    · rw [List.length_take, hlength]
      rfl
    · exact hlast last (hdrop ▸ List.mem_singleton_self last)
  · rintro ⟨nine, last, rfl, hlength, hdigits, hlast⟩
    rw [← hlength, List.take_left, List.drop_left]
    refine ⟨⟨?_, hdigits⟩, fun c hc => ?_⟩
    · rw [List.length_append, hlength]
      rfl
    · rw [List.mem_singleton.1 hc]
      exact hlast

theorem isbn_of_not_isIsbn10 (h : isIsbn10 (isbnText cs) = false) : isbn cs = isbnText cs := by
  rw [isbn, h, if_neg Bool.false_ne_true]

theorem isDigit_thirteen {nine : List Char} (h : ∀ c ∈ nine, c.isDigit = true) :
    ∀ c ∈ thirteen nine, c.isDigit = true := by
  intro c hc
  rcases List.mem_append.1 hc with hc | hc
  · rcases List.mem_append.1 hc with hc | hc
    · have hprefix : ['9', '7', '8'].all Char.isDigit = true := by decide
      exact List.all_eq_true.1 hprefix c hc
    · exact h c hc
  · rw [List.mem_singleton.1 hc]
    exact isDigit_checkDigit _

theorem length_thirteen {nine : List Char} (h : nine.length = 9) :
    (thirteen nine).length = 13 := by
  simp [thirteen, h]

theorem alternatingSum_thirteen {nine : List Char} (h : nine.length = 9) :
    alternatingSum (thirteen nine) % 10 = 0 :=
  (alternatingSum_concat_mod_iff (by simp [h]) (isDigit_checkDigit _)).2 rfl

/-- An ISBN of thirteen stays as it is. -/
theorem isbn_thirteen {nine : List Char} (hlength : nine.length = 9)
    (hdigits : ∀ c ∈ nine, c.isDigit = true) : isbn (thirteen nine) = thirteen nine := by
  have htext := isbnText_of_isDigit (isDigit_thirteen hdigits)
  have hnot : isIsbn10 (isbnText (thirteen nine)) = false := by
    rw [htext, isIsbn10, length_thirteen hlength]
    rfl
  rw [isbn_of_not_isIsbn10 hnot, htext]

theorem TenDigit.isbn_eq {nine : List Char} (h : TenDigit nine cs) : isbn cs = thirteen nine := by
  obtain ⟨last, hlast, htext⟩ := h.exists_last
  have hten : isIsbn10 (isbnText cs) = true :=
    isIsbn10_iff.2 ⟨nine, last, htext, h.length_eq, h.isDigit, hlast⟩
  have htake : (isbnText cs).take 9 = nine := by
    rw [htext, ← h.length_eq, List.take_left]
  rw [isbn, if_pos hten, isbn13, htake]
  rfl

theorem ThirteenDigit.isbn_eq {nine : List Char} (h : ThirteenDigit nine cs)
    (hlength : nine.length = 9) (hdigits : ∀ c ∈ nine, c.isDigit = true) :
    isbn cs = thirteen nine := by
  obtain ⟨check, hcheck, hgaps, hsum⟩ := h.exists_check
  have heq : withoutGaps cs = thirteen nine := by
    rw [hgaps] at hsum ⊢
    rw [(alternatingSum_concat_mod_iff (by simp [hlength]) hcheck).1 hsum]
    rfl
  have htext : isbnText cs = isbnText (thirteen nine) := by
    rw [isbnText_eq, heq, upper_of_isDigit (isDigit_thirteen hdigits),
      isbnText_of_isDigit (isDigit_thirteen hdigits)]
  rw [isbn, htext, ← isbn, isbn_thirteen hlength hdigits]

theorem isbn_isbn (cs : List Char) : isbn (isbn cs) = isbn cs := by
  cases hten : isIsbn10 (isbnText cs) with
  | true =>
      obtain ⟨nine, last, htext, hlength, hdigits, hlast⟩ := isIsbn10_iff.1 hten
      have hcs : TenDigit nine cs := ⟨hlength, hdigits, last, hlast, htext⟩
      rw [hcs.isbn_eq, isbn_thirteen hlength hdigits]
  | false =>
      have htext := isbnText_isbnText cs
      rw [isbn_of_not_isIsbn10 hten, isbn_of_not_isIsbn10 (by rw [htext, hten]), htext]

/-- **An ISBN has one form.** Normalizing again changes nothing. An ISBN of ten becomes 978, its
first nine digits and one digit, and the sum of these, every other one taken three times, is
divisible by ten. Two of them become the same exactly if they share the first nine digits, and the
ISBN of thirteen of these digits becomes the same, wherever there are hyphens and white space. -/
theorem isbn_oneForm (cs : List Char) :
    isbn (isbn cs) = isbn cs ∧
    ∀ nine, TenDigit nine cs →
      (∃ check, check.isDigit = true ∧ isbn cs = ['9', '7', '8'] ++ nine ++ [check] ∧
        alternatingSum (isbn cs) % 10 = 0) ∧
      (∀ ds nine', TenDigit nine' ds → (isbn cs = isbn ds ↔ nine = nine')) ∧
      ∀ ds, ThirteenDigit nine ds → isbn ds = isbn cs := by
  refine ⟨isbn_isbn cs, fun nine hcs => ⟨?_, fun ds nine' hds => ?_, fun ds hds => ?_⟩⟩
  · rw [hcs.isbn_eq]
    exact ⟨_, isDigit_checkDigit _, rfl, alternatingSum_thirteen hcs.length_eq⟩
  · rw [hcs.isbn_eq, hds.isbn_eq]
    refine ⟨fun h => ?_, fun h => h ▸ rfl⟩
    have hbodies : (['9', '7', '8'] ++ nine).length = (['9', '7', '8'] ++ nine').length := by
      rw [List.length_append, List.length_append, hcs.length_eq, hds.length_eq]
    exact List.append_cancel_left (List.append_inj_left h hbodies)
  · rw [hds.isbn_eq hcs.length_eq hcs.isDigit, hcs.isbn_eq]

/-- One book under three numbers, of which the first two differ in the check digit. -/
theorem isbn_oneForm_threeTimes :
    isbn "0-306-40615-2".toList = "9780306406157".toList ∧
    alternatingSum "9780306406157".toList % 10 = 0 ∧
    isbn "0-306-40615-2".toList = isbn "0 306 40615\tx".toList ∧
    isbn "978-0 306-40615-7".toList = isbn "0-306-40615-2".toList := by
  have hnine : ∀ c ∈ "030640615".toList, c.isDigit = true :=
    List.all_eq_true.1 (by decide +kernel)
  have hten : TenDigit "030640615".toList "0-306-40615-2".toList :=
    ⟨by decide +kernel, hnine, '2', by decide, by decide +kernel⟩
  have hten' : TenDigit "030640615".toList "0 306 40615\tx".toList :=
    ⟨by decide +kernel, hnine, 'X', by decide, by decide +kernel⟩
  have hthirteen : ThirteenDigit "030640615".toList "978-0 306-40615-7".toList :=
    ⟨'7', by decide, by decide +kernel, by decide +kernel⟩
  have hform : isbn "0-306-40615-2".toList = "9780306406157".toList := by decide +kernel
  obtain ⟨⟨check, -, -, hsum⟩, hsame, hlong⟩ := (isbn_oneForm _).2 _ hten
  exact ⟨hform, hform ▸ hsum, (hsame _ _ hten').2 rfl, hlong _ hthirteen⟩

end CatalogSearch.Identifier
