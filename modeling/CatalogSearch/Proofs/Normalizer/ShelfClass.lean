import CatalogSearch.Proofs.Normalizer.ClassNumber

/-!
The order of shelf keys without class letters. The first three digits are the class, filled up with
zeros, and classes have the order of their numbers whatever follows them. A number with more digits
is split: the digits behind the third and the fraction are a word behind the class. So numbers of
one class that are that long have the order of their digits as texts, which is the order of the
numbers only if they have equally many digits. If a line breaks behind such a number, it is not
taken apart and not split, and then it comes after all of its class that are.
-/

namespace CatalogSearch.ShelfKey

open Text

namespace ClassNumber

variable (n : ClassNumber)

/-- The number that the first three digits form. -/
def shelfClass : Nat := natOfDigits (n.integer.take 3)

theorem shelfClass_of_length_le (h : n.integer.length ≤ 3) : n.shelfClass = n.value := by
  rw [shelfClass, value, List.take_of_length_le h]

/-- The class with zeros in front of it. -/
def classKey : List Char := List.replicate (3 - n.integer.length) '0' ++ n.integer.take 3

/-- What follows the class in the number. -/
def afterClass : List Char := n.integer.drop 3 ++ fractionText n.fraction

/-- Whether a line breaks behind a number with more than three digits. -/
def BreaksLine : Prop := 3 < n.integer.length ∧ '\n' ∈ trimEnd (n.gap ++ n.remainder)

instance : Decidable n.BreaksLine := inferInstanceAs (Decidable (_ ∧ _))

/-- What divides the class from digits behind it. -/
def separator : List Char := if 3 < n.integer.length ∧ ¬ n.BreaksLine then [' '] else []

theorem take_append_afterClass : n.integer.take 3 ++ n.afterClass = n.number := by
  rw [afterClass, ← List.append_assoc, List.take_append_drop, number]

theorem length_classKey : n.classKey.length = 3 := by
  rw [classKey, List.length_append, List.length_replicate, List.length_take]
  omega

theorem isDigit_classKey : ∀ c ∈ n.classKey, c.isDigit = true := by
  intro c hc
  rcases List.mem_append.1 hc with hc | hc
  · rw [List.eq_of_mem_replicate hc]
    decide
  · exact n.isDigit_integer c (List.mem_of_mem_take hc)

theorem shelfClass_eq : n.shelfClass = positional 10 (fun c => c.toNat - 48) n.classKey :=
  (positional_replicate_append rfl _ _).symm

theorem shelfClass_lt_iff {m n : ClassNumber} :
    m.shelfClass < n.shelfClass ↔ m.classKey < n.classKey := by
  rw [shelfClass_eq, shelfClass_eq]
  exact numerals_decimal.positional_lt_iff m.isDigit_classKey n.isDigit_classKey
    (m.length_classKey.trans n.length_classKey.symm)

theorem mem_number_of_mem_afterClass {c : Char} (h : c ∈ n.afterClass) : c ∈ n.number := by
  rw [← take_append_afterClass]
  exact List.mem_append_right _ h

theorem exists_afterClass_eq (h : 3 < n.integer.length) :
    ∃ d ds, d.isDigit = true ∧ n.afterClass = d :: ds := by
  obtain ⟨d, ds, hds⟩ : ∃ d ds, n.integer.drop 3 = d :: ds := by
    refine List.exists_cons_of_ne_nil fun hnil => ?_
    rw [List.drop_eq_nil_iff] at hnil
    omega
  have hdigit : d.isDigit = true :=
    n.isDigit_integer d (List.mem_of_mem_drop (hds ▸ List.mem_cons_self))
  exact ⟨d, ds ++ fractionText n.fraction, hdigit, by rw [afterClass, hds, List.cons_append]⟩

theorem space_lt_of_mem_afterClass : ∀ c ∈ n.afterClass, ' ' < c := by
  intro c hc
  rcases n.mem_number (n.mem_number_of_mem_afterClass hc) with hdigit | rfl
  · exact lt_trans (by decide) (point_lt_of_ascii hdigit)
  · decide

/-! ### Parts of a number without class letters -/

theorem upper_trim_text :
    upper (trim (String.ofList n.text).toList) = n.number ++ n.ending := by
  have hstart : trimStart n.text = n.text :=
    trimStart_append_of_not_isBlank n.number_ne_nil fun c hc => n.isBlank_of_mem_number hc
  rw [String.toList_ofList, trim, hstart]
  exact n.upper_trimEnd []

theorem parts?_number (rest : List Char) :
    parts? (n.number ++ rest) = partsAfter? [] (some 3) (n.number ++ rest) := by
  obtain ⟨d, ds, hds⟩ := List.exists_cons_of_ne_nil n.number_ne_nil
  have hd : isClassLetter d = false := by
    rcases n.mem_number (hds ▸ List.mem_cons_self : d ∈ n.number) with hdigit | rfl
    · exact isClassLetter_of_isDigit (isDigit_of_ascii hdigit)
    · decide
  have hletters : (n.number ++ rest).takeWhile isClassLetter = [] := by
    rw [hds, List.cons_append, List.takeWhile_cons_of_neg (by simp [hd])]
  rw [parts?, hletters]
  rfl

theorem parts?_of_length_le (h : n.integer.length ≤ 3) : parts? (n.number ++ n.ending) =
    some ⟨[], n.integer, fractionText n.fraction, trimStart n.ending⟩ := by
  have hwidth : n.integer.length ≤ (some 3).getD n.integer.length := h
  rw [parts?_number, partsAfter?_number [] n hwidth n.isBlank_head?_ending]

/-- Of a number with more than three digits the others are what follows the class number, and so is
the fraction. -/
theorem parts?_of_lt_length (h : 3 < n.integer.length) : parts? (n.number ++ n.ending) =
    some ⟨[], n.integer.take 3, [], n.afterClass ++ n.ending⟩ := by
  obtain ⟨d, ds, hdigit, hds⟩ := n.exists_afterClass_eq h
  have hpoint : d ≠ '.' := by
    rintro rfl
    cases hdigit
  have hlength : (n.integer.take 3).length = 3 := List.length_take_of_le (by omega)
  have hdrop : (n.number ++ n.ending).drop 3 = n.afterClass ++ n.ending := by
    rw [← take_append_afterClass, List.append_assoc]
    exact List.drop_left' hlength
  have hne : ¬ (n.integer.take 3).isEmpty = true := by
    rw [List.isEmpty_iff_length_eq_zero]
    omega
  rw [parts?_number, partsAfter?, takeWhile_number n n.isBlank_head?_ending]
  dsimp only [Option.getD_some]
  rw [if_neg hne, hlength, hdrop, hds, List.cons_append, splitFraction_of_ne hpoint]
  dsimp only
  rw [trimStart_cons (isBlank_of_isAsciiDigit hdigit)]

theorem isBroken_iff : (parts? (n.number ++ n.ending)).any Parts.isBroken = true ↔
    n.BreaksLine := by
  rw [BreaksLine]
  rcases Nat.lt_or_ge 3 n.integer.length with hlong | hshort
  · have hnumber : '\n' ∉ n.afterClass := fun hmem =>
      absurd (n.space_lt_of_mem_afterClass _ hmem) (by decide)
    have hending : '\n' ∈ n.ending ↔ '\n' ∈ trimEnd (n.gap ++ n.remainder) :=
      mem_upper_iff (by decide)
    rw [n.parts?_of_lt_length hlong, Option.any_some, Parts.isBroken, List.contains_iff_mem,
      List.mem_append, hending]
    simp only [hnumber, hlong, false_or, true_and]
  · rw [n.parts?_of_length_le hshort, Option.any_some, Parts.isBroken, List.contains_iff_mem]
    simp only [n.not_mem_trimStart_ending, Nat.not_lt.2 hshort, false_and]

/-! ### Keys of a number without class letters -/

theorem classKey_of_length_le (h : n.integer.length ≤ 3) :
    n.classKey = List.replicate (3 - n.integer.length) '0' ++ n.integer := by
  rw [classKey, List.take_of_length_le h]

theorem classKey_of_lt_length (h : 3 < n.integer.length) : n.classKey = n.integer.take 3 := by
  rw [classKey, Nat.sub_eq_zero_of_le h.le, List.replicate_zero, List.nil_append]

theorem afterClass_of_length_le (h : n.integer.length ≤ 3) :
    n.afterClass = fractionText n.fraction := by
  rw [afterClass, List.drop_eq_nil_of_le h, List.nil_append]

/-- The number that is not taken apart is the first word of the key. -/
theorem exists_make_eq_of_breaksLine (h : n.BreaksLine) : ∃ rest, (∀ c ∈ rest.head?, c = ' ') ∧
    make (String.ofList n.text) = String.ofList (n.classKey ++ (n.afterClass ++ rest)) := by
  obtain ⟨rest, hrest, hwords⟩ := exists_unwords_cons_eq n.number (words n.ending)
  have hnumber : words (n.number ++ n.ending) = n.number :: words n.ending :=
    words_append_of_head? n.number_ne_nil (fun _ hc => n.isBlank_of_mem_number hc)
      n.isBlank_head?_ending
  refine ⟨rest, hrest, ?_⟩
  rw [make, n.upper_trim_text, ofTrimmed_of_isBroken (n.isBroken_iff.2 h), hnumber, hwords,
    n.classKey_of_lt_length h.1, ← List.append_assoc, take_append_afterClass]

theorem make_of_parts? {p : Parts} (hlines : ¬ n.BreaksLine)
    (hparts : parts? (n.number ++ n.ending) = some p) :
    make (String.ofList n.text) = String.ofList p.key := by
  have hbroken := Bool.eq_false_iff.2 fun h => hlines (n.isBroken_iff.1 h)
  rw [make, n.upper_trim_text, ofTrimmed_of_not_isBroken hbroken, hparts]
  rfl

theorem exists_make_eq_of_length_le (h : n.integer.length ≤ 3) :
    ∃ rest, (∀ c ∈ rest.head?, c = ' ') ∧
      make (String.ofList n.text) = String.ofList (n.classKey ++ (n.afterClass ++ rest)) := by
  have hlines : ¬ n.BreaksLine := fun hbreaks => absurd hbreaks.1 (Nat.not_lt.2 h)
  have hword := n.endsInWord_number (List.replicate (3 - n.integer.length) '0')
  rw [number, ← List.append_assoc] at hword
  refine ⟨trimEnd (' ' :: cutters (trimStart n.ending)), fun c hc => ?_, ?_⟩
  · exact (Option.some.inj (mem_head?_of_isPrefix (trimEnd_isPrefix _) hc)).symm
  · rw [n.make_of_parts? hlines (n.parts?_of_length_le h), Parts.key, if_pos List.isEmpty_nil,
      Parts.numberedKey, hword.trimEnd_append, n.classKey_of_length_le h,
      n.afterClass_of_length_le h, List.append_assoc, List.append_assoc]

/-- Digits behind the class are the first of the words behind it, with the fraction. -/
theorem exists_cutters_eq (h : 3 < n.integer.length) : ∃ rest, (∀ c ∈ rest.head?, c = ' ') ∧
    cutters (n.afterClass ++ n.ending) = n.afterClass ++ rest := by
  obtain ⟨d, ds, hdigit, hds⟩ := n.exists_afterClass_eq h
  have hpoint : (d == '.') = false := by
    rw [beq_eq_false_iff_ne]
    rintro rfl
    cases hdigit
  have hwords : words (n.afterClass ++ n.ending) = n.afterClass :: words n.ending :=
    words_append_of_head? (hds ▸ List.cons_ne_nil d ds)
      (fun _ hc => n.isBlank_of_mem_number (n.mem_number_of_mem_afterClass hc))
      n.isBlank_head?_ending
  rw [cutters, hwords, hds, List.map_cons, List.dropWhile_cons_of_neg (by simp [hpoint]),
    List.filter_cons_of_pos rfl]
  exact exists_unwords_cons_eq _ _

theorem exists_make_eq_of_lt_length (h : 3 < n.integer.length) (hlines : ¬ n.BreaksLine) :
    ∃ rest, (∀ c ∈ rest.head?, c = ' ') ∧
      make (String.ofList n.text) =
        String.ofList (n.classKey ++ ' ' :: (n.afterClass ++ rest)) := by
  obtain ⟨rest, hrest, hcutters⟩ := n.exists_cutters_eq h
  obtain ⟨d, ds, -, hds⟩ := n.exists_afterClass_eq h
  have hword : EndsInWord (n.classKey ++ ' ' :: n.afterClass) := by
    rw [← List.singleton_append, ← List.append_assoc]
    exact endsInWord_append _ (hds ▸ List.cons_ne_nil d ds) fun _ hc =>
      n.isBlank_of_mem_number (n.mem_number_of_mem_afterClass hc)
  have hzeros : 3 - (n.integer.take 3).length = 0 := by
    rw [List.length_take]
    omega
  refine ⟨trimEnd rest, fun c hc => hrest c (mem_head?_of_isPrefix (trimEnd_isPrefix _) hc), ?_⟩
  have hkey := hword.trimEnd_append rest
  rw [List.append_assoc, List.append_assoc, List.cons_append, List.cons_append] at hkey
  rw [n.make_of_parts? hlines (n.parts?_of_lt_length h), Parts.key, if_pos List.isEmpty_nil,
    Parts.numberedKey]
  dsimp only
  rw [hzeros, hcutters, List.replicate_zero, List.nil_append, List.append_nil,
    ← n.classKey_of_lt_length h, hkey]

/-- Nothing but a space comes after the number at once. -/
theorem exists_make_eq : ∃ rest, (∀ c ∈ rest.head?, c = ' ') ∧ make (String.ofList n.text) =
    String.ofList (n.classKey ++ (n.separator ++ (n.afterClass ++ rest))) := by
  by_cases hlong : 3 < n.integer.length
  · by_cases hlines : n.BreaksLine
    · rw [separator, if_neg fun h => h.2 hlines]
      exact n.exists_make_eq_of_breaksLine hlines
    · rw [separator, if_pos ⟨hlong, hlines⟩]
      exact n.exists_make_eq_of_lt_length hlong hlines
  · rw [separator, if_neg fun h => hlong h.1]
    exact n.exists_make_eq_of_length_le (Nat.not_lt.1 hlong)

end ClassNumber

/-! ### The order of keys -/

variable {a b : ClassNumber}

theorem bytesBefore_make_of_shelfClass (h : a.shelfClass < b.shelfClass) :
    BytesBefore (make (String.ofList a.text)) (make (String.ofList b.text)) := by
  obtain ⟨rest, -, ha⟩ := a.exists_make_eq
  obtain ⟨rest', -, hb⟩ := b.exists_make_eq
  have hlength : a.classKey.length = b.classKey.length :=
    a.length_classKey.trans b.length_classKey.symm
  rw [ha, hb, bytesBefore_ofList_iff]
  exact append_lt_append_of_length_eq hlength (ClassNumber.shelfClass_lt_iff.1 h) _ _

/-- Without a separator the number goes on with a digit, which comes after the separator. -/
theorem separator_append_lt (hlength : 3 < a.integer.length ↔ 3 < b.integer.length)
    (hlines : a.BreaksLine → b.BreaksLine) {rest rest' : List Char}
    (h : a.afterClass ++ rest < b.afterClass ++ rest') :
    a.separator ++ (a.afterClass ++ rest) < b.separator ++ (b.afterClass ++ rest') := by
  by_cases ha : 3 < a.integer.length ∧ ¬ a.BreaksLine
  · by_cases hb : b.BreaksLine
    · obtain ⟨d, ds, hdigit, hds⟩ := b.exists_afterClass_eq hb.1
      rw [ClassNumber.separator, if_pos ha, ClassNumber.separator, if_neg fun hn => hn.2 hb, hds]
      exact List.Lex.rel (lt_trans (by decide) (point_lt_of_ascii hdigit))
    · rw [ClassNumber.separator, if_pos ha, ClassNumber.separator,
        if_pos ⟨hlength.1 ha.1, hb⟩]
      exact List.append_left_lt h
  · have hb : ¬ (3 < b.integer.length ∧ ¬ b.BreaksLine) := fun hb =>
      ha ⟨hlength.2 hb.1, fun hbreaks => hb.2 (hlines hbreaks)⟩
    rw [ClassNumber.separator, if_neg ha, ClassNumber.separator, if_neg hb]
    exact h

theorem bytesBefore_make_of_integer (ha : 3 < a.integer.length) (hb : 3 < b.integer.length)
    (hlines : a.BreaksLine → b.BreaksLine) (h : a.integer < b.integer) :
    BytesBefore (make (String.ofList a.text)) (make (String.ofList b.text)) := by
  rcases take_lt_take_or_drop_lt_drop h 3 with htake | ⟨htake, hdrop⟩
  · refine bytesBefore_make_of_shelfClass (ClassNumber.shelfClass_lt_iff.2 ?_)
    rwa [a.classKey_of_lt_length ha, b.classKey_of_lt_length hb]
  · obtain ⟨rest, hrest, hamake⟩ := a.exists_make_eq
    obtain ⟨rest', -, hbmake⟩ := b.exists_make_eq
    rw [hamake, hbmake, bytesBefore_ofList_iff, a.classKey_of_lt_length ha,
      b.classKey_of_lt_length hb, htake]
    refine List.append_left_lt (separator_append_lt (iff_of_true ha hb) hlines ?_)
    rw [ClassNumber.afterClass, ClassNumber.afterClass, List.append_assoc, List.append_assoc]
    refine append_lt_append hdrop (fun c hc d hd => ?_) _
    exact lt_of_mem_head?_fraction hrest hc (b.isDigit_integer d (List.mem_of_mem_drop hd))

theorem bytesBefore_make_of_number_fraction (hvalue : a.value = b.value)
    (hlines : a.BreaksLine → b.BreaksLine) (h : a.fraction < b.fraction) :
    BytesBefore (make (String.ofList a.text)) (make (String.ofList b.text)) := by
  obtain ⟨rest, hrest, ha⟩ := a.exists_make_eq
  obtain ⟨rest', -, hb⟩ := b.exists_make_eq
  have hinteger : a.integer = b.integer := ClassNumber.integer_eq_of_value_eq hvalue
  have hclass : a.classKey = b.classKey := by
    rw [ClassNumber.classKey, ClassNumber.classKey, hinteger]
  rw [ha, hb, bytesBefore_ofList_iff, hclass]
  refine List.append_left_lt (separator_append_lt (by rw [hinteger]) hlines ?_)
  rw [ClassNumber.afterClass, ClassNumber.afterClass, hinteger, List.append_assoc,
    List.append_assoc]
  refine List.append_left_lt (append_lt_append (fractionText_lt h) (fun c hc d hd => ?_) _)
  rw [hrest c hc]
  exact space_lt_of_mem_fractionText b.isDigit_fraction d hd

theorem bytesBefore_make_of_short_value (h : a.value < b.value) (hb : b.integer.length ≤ 3) :
    BytesBefore (make (String.ofList a.text)) (make (String.ofList b.text)) := by
  have ha : a.integer.length ≤ 3 := by
    rcases ClassNumber.value_lt_iff.1 h with hlength | ⟨hlength, -⟩ <;> omega
  rw [← a.shelfClass_of_length_le ha, ← b.shelfClass_of_length_le hb] at h
  exact bytesBefore_make_of_shelfClass h

/-- **Shelf keys sort by three digits.** The smaller of two numbers with at most three digits has the
smaller key. In general the smaller class has it, where the class is the number that the first three
digits form. Numbers with more digits have the order of their digits as texts, and of equal numbers
the one with the smaller fraction comes first, where none at all is the smallest. A line that breaks
behind the first of two numbers with more than three digits, but not behind the second, is an
exception to the last two. Nothing else that follows the numbers has a part in it. -/
theorem bytesBefore_make_classNumber (a b : ClassNumber) :
    (a.value < b.value → b.integer.length ≤ 3 →
      BytesBefore (make (String.ofList a.text)) (make (String.ofList b.text))) ∧
    (a.shelfClass < b.shelfClass →
      BytesBefore (make (String.ofList a.text)) (make (String.ofList b.text))) ∧
    (3 < a.integer.length → 3 < b.integer.length → (a.BreaksLine → b.BreaksLine) →
      BytesBefore (String.ofList a.integer) (String.ofList b.integer) →
        BytesBefore (make (String.ofList a.text)) (make (String.ofList b.text))) ∧
    (a.value = b.value → (a.BreaksLine → b.BreaksLine) →
      BytesBefore (String.ofList a.fraction) (String.ofList b.fraction) →
        BytesBefore (make (String.ofList a.text)) (make (String.ofList b.text))) := by
  refine ⟨bytesBefore_make_of_short_value, bytesBefore_make_of_shelfClass,
    fun ha hb hlines h => ?_, fun hvalue hlines h => ?_⟩
  · exact bytesBefore_make_of_integer ha hb hlines (bytesBefore_ofList_iff.1 h)
  · exact bytesBefore_make_of_number_fraction hvalue hlines (bytesBefore_ofList_iff.1 h)

/-- One pair of class numbers for each of the parts that can make the difference. -/
theorem bytesBefore_make_classNumber_each_part :
    BytesBefore (make "5 .A1") (make "42.5") ∧
      BytesBefore (make "1000") (make "833\t Z9") ∧
      BytesBefore (make "1234 X") (make "12345") ∧
      BytesBefore (make "813\tZ") (make "813.54\n.S6") := by
  have hvalue := bytesBefore_make_classNumber
    { integer := ['5'], fraction := [], gap := [' '], remainder := ['.', 'A', '1'] }
    { integer := ['4', '2'], fraction := ['5'], gap := [], remainder := [] }
  have hclass := bytesBefore_make_classNumber
    { integer := ['1', '0', '0', '0'], fraction := [], gap := [], remainder := [] }
    { integer := ['8', '3', '3'], fraction := [], gap := ['\t', ' '], remainder := ['Z', '9'] }
  have hdigits := bytesBefore_make_classNumber
    { integer := ['1', '2', '3', '4'], fraction := [], gap := [' '], remainder := ['X'] }
    { integer := ['1', '2', '3', '4', '5'], fraction := [], gap := [], remainder := [] }
  have hfraction := bytesBefore_make_classNumber
    { integer := ['8', '1', '3'], fraction := [], gap := ['\t'], remainder := ['Z'] }
    { integer := ['8', '1', '3'], fraction := ['5', '4'], gap := ['\n'],
      remainder := ['.', 'S', '6'] }
  refine ⟨hvalue.1 (by decide) (by decide), hclass.2.1 (by decide), ?_, ?_⟩
  · exact hdigits.2.2.1 (by decide) (by decide) (fun hlines => absurd hlines (by decide))
      (bytesBefore_ofList_iff.2 (by decide))
  · exact hfraction.2.2.2 rfl (fun hlines => absurd hlines (by decide))
      (bytesBefore_ofList_iff.2 (by decide))

/-- The order of keys is not that of numbers with more than three digits, and fractions of such a
number do not decide where a line breaks behind it. -/
theorem not_forall_bytesBefore_make_of_value_lt :
    (¬ ∀ a b : ClassNumber, a.value < b.value →
      BytesBefore (make (String.ofList a.text)) (make (String.ofList b.text))) ∧
    (¬ ∀ a b : ClassNumber, a.value = b.value →
      BytesBefore (String.ofList a.fraction) (String.ofList b.fraction) →
        BytesBefore (make (String.ofList a.text)) (make (String.ofList b.text))) := by
  constructor
  · intro h
    have hkeys : BytesBefore (make "999") (make "1000") :=
      h { integer := ['9', '9', '9'], fraction := [], gap := [], remainder := [] }
        { integer := ['1', '0', '0', '0'], fraction := [], gap := [], remainder := [] } (by decide)
    have hthree : make "999" = "999" := by decide +kernel
    have hfour : make "1000" = "100 0" := by decide +kernel
    rw [hthree, hfour, bytesBefore_iff] at hkeys
    exact absurd hkeys (by decide)
  · intro h
    have hkeys : BytesBefore (make "1234\nX") (make "1234.5") :=
      h { integer := ['1', '2', '3', '4'], fraction := [], gap := ['\n'], remainder := ['X'] }
        { integer := ['1', '2', '3', '4'], fraction := ['5'], gap := [], remainder := [] }
        rfl (bytesBefore_ofList_iff.2 (by decide))
    have hbroken : make "1234\nX" = "1234 X" := by decide +kernel
    have hsplit : make "1234.5" = "123 4.5" := by decide +kernel
    rw [hbroken, hsplit, bytesBefore_iff] at hkeys
    exact absurd hkeys (by decide)

end CatalogSearch.ShelfKey
