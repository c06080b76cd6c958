import CatalogSearch.Proofs.Normalizer.ClassNumber

/-!
The order of shelf keys. Keys of call numbers with class letters sort by their letters, then by the
number before the fraction, then by the fraction. It does not matter what comes after any of the
three, as what ends a part of a key is smaller than all characters that could have continued it. The
number of digits in front of the integer stands in for the zeros that it lacks.
-/

namespace CatalogSearch.ShelfKey

open Text

/-- A call number of class letters and a class number, with white space between them or without. -/
structure LetteredNumber where
  letters : List Char
  space : List Char
  number : ClassNumber
  letters_ne_nil : letters ≠ [] := by decide
  length_letters_le : letters.length ≤ 3 := by decide
  isClassLetter_letters : ∀ c ∈ letters, isClassLetter c = true := by exact List.all_eq_true.1 rfl
  isBlank_space : ∀ c ∈ space, isBlank c = true := by exact List.all_eq_true.1 rfl

/-! ### Letters -/

theorem isClassLetter_iff {c : Char} : isClassLetter c = true ↔ 'A' ≤ c ∧ c ≤ 'Z' := by
  rw [isClassLetter, Bool.and_eq_true, decide_eq_true_eq, decide_eq_true_eq]

theorem byteLength_of_isDigit {cs : List Char} (h : ∀ c ∈ cs, c.isDigit = true) :
    byteLength cs = cs.length := by
  have hsize (n : Nat) : cs.foldl (fun n c => n + c.utf8Size) n = n + cs.length := by
    induction cs generalizing n with
    | nil => rfl
    | cons c cs ih =>
        have hc : c.utf8Size = 1 :=
          Char.utf8Size_eq_one_iff.2 (Nat.le_trans (isAsciiDigit_iff.1 (h c List.mem_cons_self)).2
            (by decide))
        rw [List.foldl_cons, ih fun d hd => h d (List.mem_cons_of_mem c hd), hc, List.length_cons]
        omega
  rw [byteLength, hsize, Nat.zero_add]

namespace LetteredNumber

variable (a b : LetteredNumber)

def text : String := String.ofList (a.letters ++ (a.space ++ a.number.text))

/-- The integer with the number of its digits in front. -/
def integerKey : List Char := Nat.toDigits 10 a.number.integer.length ++ a.number.integer

/-- The call number as it is when its parts are looked for. -/
theorem upper_trim_text : upper (trim a.text.toList) =
    a.letters ++ (a.space ++ (a.number.number ++ a.number.ending)) := by
  have hstart : trimStart a.text.toList = a.letters ++ a.space ++ a.number.text := by
    rw [text, String.toList_ofList, List.append_assoc]
    exact trimStart_append_of_not_isBlank a.letters_ne_nil
      fun c hc => isBlank_of_isClassLetter (a.isClassLetter_letters c hc)
  have hletters : upper a.letters = a.letters := upper_of_forall fun c hc =>
    upperChar_of_lt (lt_of_le_of_lt (isClassLetter_iff.1 (a.isClassLetter_letters c hc)).2
      (by decide))
  have hspace : upper a.space = a.space :=
    upper_of_forall fun c hc => upperChar_of_isBlank (a.isBlank_space c hc)
  rw [trim, hstart, a.number.upper_trimEnd, upper_append, hletters, hspace, List.append_assoc]

theorem parts?_text : parts? (upper (trim a.text.toList)) =
    some ⟨a.letters, a.number.integer, fractionText a.number.fraction,
      trimStart a.number.ending⟩ := by
  have hnumber : ∀ c ∈ (a.number.number ++ a.number.ending).head?, isDigit c = true := by
    obtain ⟨d, ds, hds⟩ := List.exists_cons_of_ne_nil a.number.integer_ne_nil
    rw [ClassNumber.number, hds]
    rintro c ⟨⟩
    exact isDigit_of_ascii (a.number.isDigit_integer d (hds ▸ List.mem_cons_self))
  have hletters : ∀ c ∈ (a.space ++ (a.number.number ++ a.number.ending)).head?,
      isClassLetter c = false := by
    intro c hc
    cases hspace : a.space with
    | nil =>
        rw [hspace] at hc
        exact isClassLetter_of_isDigit (hnumber c hc)
    | cons d ds =>
        rw [hspace] at hc
        obtain rfl : d = c := Option.some.inj hc
        exact isClassLetter_of_isBlank (a.isBlank_space d (hspace ▸ List.mem_cons_self))
  have hspace : ∀ c ∈ (a.number.number ++ a.number.ending).head?, isBlank c = false :=
    fun c hc => isBlank_of_isDigit (hnumber c hc)
  rw [upper_trim_text, parts?, takeWhile_append_of_head? a.isClassLetter_letters hletters,
    dropWhile_append_of_head? a.isClassLetter_letters hletters, trimStart,
    dropWhile_append_of_head? a.isBlank_space hspace,
    partsAfter?_number a.letters a.number le_rfl a.number.isBlank_head?_ending,
    if_neg (by simpa using a.letters_ne_nil), if_neg (not_lt.2 a.length_letters_le)]

/-- Nothing but a space comes after the fraction at once. -/
theorem exists_make_eq : ∃ rest, (∀ c ∈ rest.head?, c = ' ') ∧ make a.text = String.ofList
    (a.letters ++ ' ' :: (a.integerKey ++ (fractionText a.number.fraction ++ rest))) := by
  have hbroken : (parts? (upper (trim a.text.toList))).any Parts.isBroken = false := by
    rw [parts?_text, Option.any_some, Parts.isBroken, List.contains_eq_mem, decide_eq_false_iff_not]
    exact a.number.not_mem_trimStart_ending
  have hend (rest : List Char) : trimEnd (a.letters ++ ' ' ::
      Nat.toDigits 10 a.number.integer.length ++ a.number.integer ++
        fractionText a.number.fraction ++ rest) =
      a.letters ++ ' ' :: (a.integerKey ++ (fractionText a.number.fraction ++ trimEnd rest)) := by
    have hword := a.number.endsInWord_number
      (a.letters ++ ' ' :: Nat.toDigits 10 a.number.integer.length)
    rw [ClassNumber.number, ← List.append_assoc] at hword
    rw [hword.trimEnd_append, integerKey]
    simp only [List.append_assoc, List.cons_append]
  refine ⟨trimEnd (' ' :: cutters (trimStart a.number.ending)), fun c hc => ?_, ?_⟩
  · exact (Option.some.inj (mem_head?_of_isPrefix (trimEnd_isPrefix _) hc)).symm
  · rw [make, ofTrimmed_of_not_isBroken hbroken, parts?_text, Option.map_some, Option.getD_some,
      Parts.key, if_neg (by simpa using a.letters_ne_nil), Parts.letteredKey,
      byteLength_of_isDigit a.number.isDigit_integer, hend]

end LetteredNumber

/-! ### The order of keys -/

variable {a b : LetteredNumber}

/-- Whatever comes after letters starts with a space in the key, which no letter precedes. -/
theorem bytesBefore_make_of_letters (h : a.letters < b.letters) :
    BytesBefore (make a.text) (make b.text) := by
  obtain ⟨rest, -, ha⟩ := a.exists_make_eq
  obtain ⟨rest', -, hb⟩ := b.exists_make_eq
  rw [ha, hb, bytesBefore_ofList_iff]
  refine append_lt_append h ?_ _
  rintro c ⟨⟩ d hd
  exact lt_of_lt_of_le (by decide) (isClassLetter_iff.1 (b.isClassLetter_letters d hd)).1

theorem digitChar_lt_digitChar : ∀ n < 10, ∀ m < n, Nat.digitChar m < Nat.digitChar n := by
  decide

/-- With at most nine digits, their number is one character. -/
theorem integerKey_lt (h : a.number.value < b.number.value) (hb : b.number.integer.length ≤ 9)
    {rest : List Char} (hrest : ∀ c ∈ rest.head?, ∀ d : Char, d.isDigit = true → c < d)
    (rest' : List Char) : a.integerKey ++ rest < b.integerKey ++ rest' := by
  have hlt := ClassNumber.value_lt_iff.1 h
  have ha : a.number.integer.length ≤ 9 := by omega
  rw [LetteredNumber.integerKey, LetteredNumber.integerKey,
    Nat.toDigits_of_lt_base (Nat.lt_succ_of_le ha), Nat.toDigits_of_lt_base (Nat.lt_succ_of_le hb)]
  rcases hlt with hlength | ⟨hlength, hdigits⟩
  · exact List.Lex.rel (digitChar_lt_digitChar _ (Nat.lt_succ_of_le hb) _ hlength)
  · rw [hlength]
    exact List.Lex.cons (append_lt_append hdigits
      (fun c hc d hd => hrest c hc d (b.number.isDigit_integer d hd)) rest')

theorem bytesBefore_make_of_value (hletters : a.letters = b.letters)
    (h : a.number.value < b.number.value) (hb : b.number.integer.length ≤ 9) :
    BytesBefore (make a.text) (make b.text) := by
  obtain ⟨rest, hrest, ha⟩ := a.exists_make_eq
  obtain ⟨rest', -, hb'⟩ := b.exists_make_eq
  have hfraction : ∀ c ∈ (fractionText a.number.fraction ++ rest).head?,
      ∀ d : Char, d.isDigit = true → c < d := fun _ hc _ hd => lt_of_mem_head?_fraction hrest hc hd
  rw [ha, hb', bytesBefore_ofList_iff, hletters]
  exact List.append_left_lt (List.Lex.cons (integerKey_lt h hb hfraction _))

theorem bytesBefore_make_of_fraction (hletters : a.letters = b.letters)
    (hvalue : a.number.value = b.number.value) (h : a.number.fraction < b.number.fraction) :
    BytesBefore (make a.text) (make b.text) := by
  obtain ⟨rest, hrest, ha⟩ := a.exists_make_eq
  obtain ⟨rest', -, hb⟩ := b.exists_make_eq
  have hinteger : a.integerKey = b.integerKey := by
    rw [LetteredNumber.integerKey, LetteredNumber.integerKey,
      ClassNumber.integer_eq_of_value_eq hvalue]
  rw [ha, hb, bytesBefore_ofList_iff, hletters, hinteger]
  refine List.append_left_lt (List.Lex.cons (List.append_left_lt ?_))
  refine append_lt_append (fractionText_lt h) (fun c hc d hd => ?_) rest'
  rw [hrest c hc]
  exact space_lt_of_mem_fractionText b.number.isDigit_fraction d hd

/-- **Shelf keys sort by class.** Call numbers with different letters have keys in the order of the
letters. With the same letters, the smaller number has the smaller key if the greater one has at most
nine digits, and of equal numbers the one with the smaller fraction, where none at all is the
smallest. What follows the class numbers has no part in it. -/
theorem bytesBefore_make (a b : LetteredNumber) :
    (a.letters ≠ b.letters → (BytesBefore (make a.text) (make b.text) ↔
      BytesBefore (String.ofList a.letters) (String.ofList b.letters))) ∧
    (a.letters = b.letters → a.number.value < b.number.value → b.number.integer.length ≤ 9 →
      BytesBefore (make a.text) (make b.text)) ∧
    (a.letters = b.letters → a.number.value = b.number.value →
      BytesBefore (String.ofList a.number.fraction) (String.ofList b.number.fraction) →
        BytesBefore (make a.text) (make b.text)) := by
  refine ⟨fun hne => ?_, bytesBefore_make_of_value, fun hletters hvalue h => ?_⟩
  · rw [bytesBefore_ofList_iff]
    refine ⟨fun h => ?_, bytesBefore_make_of_letters⟩
    rcases lt_or_gt_of_ne hne with hlt | hgt
    · exact hlt
    · exact absurd h (List.lt_asymm (bytesBefore_make_of_letters hgt))
  · exact bytesBefore_make_of_fraction hletters hvalue (bytesBefore_ofList_iff.1 h)

namespace LetteredNumber

def logic : LetteredNumber where
  letters := ['Q', 'A']
  space := [' ']
  number := { integer := ['9'], fraction := ['8'], gap := [' '], remainder := ['.', 'Z', '9'] }

def computers : LetteredNumber where
  letters := ['Q', 'A']
  space := []
  number := { integer := ['7', '6'], fraction := [], gap := ['\t', ' '], remainder := ['2', '0'] }

def programming : LetteredNumber where
  letters := ['Q', 'A']
  space := [' ', ' ']
  number := { integer := ['7', '6'], fraction := ['0', '5'], gap := [], remainder := [] }

def books : LetteredNumber where
  letters := ['Z']
  space := [' ']
  number := { integer := ['1'], fraction := [], gap := [], remainder := [] }

end LetteredNumber

/-- One pair of call numbers for each of the parts that can make the difference. -/
theorem bytesBefore_make_each_part :
    (¬ BytesBefore (make "Z 1") (make "QA76\t 20")) ∧
      BytesBefore (make "QA 9.8 .Z9") (make "QA76\t 20") ∧
      BytesBefore (make "QA76\t 20") (make "QA  76.05") := by
  have hletters := (bytesBefore_make .books .computers).1 (by decide)
  have hvalue := (bytesBefore_make .logic .computers).2.1 rfl (by decide) (by decide)
  have hfraction := (bytesBefore_make .computers .programming).2.2 rfl rfl
    (bytesBefore_ofList_iff.2 (by decide))
  refine ⟨fun h => ?_, hvalue, hfraction⟩
  exact absurd (bytesBefore_ofList_iff.1 (hletters.1 h)) (by decide)

end CatalogSearch.ShelfKey
