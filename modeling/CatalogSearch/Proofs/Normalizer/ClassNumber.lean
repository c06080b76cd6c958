import CatalogSearch.Proofs.Normalizer.ShelfSpacing
import CatalogSearch.Proofs.Text.ByteOrder
import CatalogSearch.Proofs.Text.Digit

/-!
Class numbers in call numbers. A class number is an integer without zeros in front, with a fraction
or without one, and white space divides it from whatever follows. It is found as it is written, and
what follows it is in upper case by then, which makes no difference to where the class number ends.
-/

namespace CatalogSearch.ShelfKey

open Text

/-- A fraction with its point. There is none without digits. -/
def fractionText : List Char → List Char
  | [] => []
  | c :: cs => '.' :: c :: cs

/-- A class number and what follows it. -/
structure ClassNumber where
  integer : List Char
  fraction : List Char
  gap : List Char
  remainder : List Char
  integer_ne_nil : integer ≠ [] := by decide
  isDigit_integer : ∀ c ∈ integer, c.isDigit = true := by exact List.all_eq_true.1 rfl
  eq_zero_of_head? : integer.head? = some '0' → integer = ['0'] := by decide
  isDigit_fraction : ∀ c ∈ fraction, c.isDigit = true := by exact List.all_eq_true.1 rfl
  isBlank_gap : ∀ c ∈ gap, isBlank c = true := by exact List.all_eq_true.1 rfl
  remainder_eq_nil : gap = [] → remainder = [] := by decide
  not_mem_remainder : '\n' ∉ remainder := by decide

namespace ClassNumber

/-- The integer and the fraction. -/
def number (n : ClassNumber) : List Char := n.integer ++ fractionText n.fraction

def text (n : ClassNumber) : List Char := n.number ++ (n.gap ++ n.remainder)

/-- The number before the fraction. -/
def value (n : ClassNumber) : Nat := natOfDigits n.integer

end ClassNumber

/-! ### Digits -/

theorem point_lt_of_ascii {c : Char} (h : c.isDigit = true) : '.' < c := by
  have hfirst : 48 ≤ c.toNat := (isAsciiDigit_iff.1 h).1
  exact Nat.lt_of_lt_of_le (by decide) hfirst

theorem space_lt_of_mem_fractionText {cs : List Char} (h : ∀ c ∈ cs, c.isDigit = true) :
    ∀ c ∈ fractionText cs, ' ' < c := by
  cases cs with
  | nil => exact fun c hc => nomatch hc
  | cons d ds =>
      intro c hc
      rcases List.mem_cons.1 hc with rfl | hc
      · decide
      · exact lt_trans (by decide) (point_lt_of_ascii (h c hc))

/-- Fractions with their points have the order of their digits, and none at all comes first. -/
theorem fractionText_lt {cs ds : List Char} (h : cs < ds) : fractionText cs < fractionText ds := by
  cases ds with
  | nil => exact absurd h (List.not_lt_nil cs)
  | cons d ds =>
      cases cs with
      | nil => exact List.Lex.nil
      | cons c cs => exact List.Lex.cons h

/-- What comes after an integer is smaller than any digit that could have continued it. -/
theorem lt_of_mem_head?_fraction {cs rest : List Char} (hrest : ∀ c ∈ rest.head?, c = ' ')
    {c d : Char} (hc : c ∈ (fractionText cs ++ rest).head?) (hd : d.isDigit = true) : c < d := by
  cases cs with
  | nil =>
      rw [hrest c hc]
      exact lt_trans (by decide) (point_lt_of_ascii hd)
  | cons e es =>
      obtain rfl : '.' = c := Option.some.inj hc
      exact point_lt_of_ascii hd

namespace ClassNumber

theorem value_eq_positional (n : ClassNumber) :
    n.value = positional 10 (fun c => c.toNat - 48) n.integer := rfl

theorem value_lt_of_length_lt {m n : ClassNumber} (h : m.integer.length < n.integer.length) :
    m.value < n.value := by
  have hm : 0 < m.integer.length := List.length_pos_of_ne_nil m.integer_ne_nil
  obtain ⟨d, ds, hds⟩ := List.exists_cons_of_ne_nil n.integer_ne_nil
  have hzero : d ≠ '0' := by
    rintro rfl
    have hlength := congrArg List.length (n.eq_zero_of_head? (by rw [hds]; rfl))
    rw [List.length_singleton] at hlength
    omega
  have hdigit := isAsciiDigit_iff.1 (n.isDigit_integer d (hds ▸ List.mem_cons_self))
  have hne : d.toNat ≠ 48 := fun h48 => hzero (Char.toNat_inj.1 h48)
  rw [value_eq_positional, value_eq_positional, hds]
  refine numerals_decimal.positional_lt_of_length_lt ?_ m.isDigit_integer
    (hds ▸ n.isDigit_integer) (hds ▸ h)
  omega

/-- The smaller of two numbers has fewer digits, or as many and the smaller ones. -/
theorem value_lt_iff {m n : ClassNumber} : m.value < n.value ↔
    m.integer.length < n.integer.length ∨
      m.integer.length = n.integer.length ∧ m.integer < n.integer := by
  have hdigits (hlength : m.integer.length = n.integer.length) :
      m.value < n.value ↔ m.integer < n.integer :=
    numerals_decimal.positional_lt_iff m.isDigit_integer n.isDigit_integer hlength
  constructor
  · intro h
    rcases lt_trichotomy m.integer.length n.integer.length with hlt | heq | hgt
    · exact Or.inl hlt
    · exact Or.inr ⟨heq, (hdigits heq).1 h⟩
    · exact absurd h (value_lt_of_length_lt hgt).not_gt
  · rintro (hlt | ⟨heq, hlt⟩)
    · exact value_lt_of_length_lt hlt
    · exact (hdigits heq).2 hlt

theorem integer_eq_of_value_eq {m n : ClassNumber} (h : m.value = n.value) :
    m.integer = n.integer := by
  have hlength : m.integer.length = n.integer.length := by
    rcases lt_trichotomy m.integer.length n.integer.length with hlt | heq | hgt
    · exact absurd h (value_lt_of_length_lt hlt).ne
    · exact heq
    · exact absurd h (value_lt_of_length_lt hgt).ne'
  exact (numerals_decimal.positional_eq_iff m.isDigit_integer n.isDigit_integer hlength).1 h

end ClassNumber

/-! ### Parts -/

theorem splitFraction_fractionText {cs rest : List Char} (hcs : ∀ c ∈ cs, c.isDigit = true)
    (hrest : ∀ c ∈ rest.head?, isBlank c = true) :
    splitFraction (fractionText cs ++ rest) = (fractionText cs, rest) := by
  cases cs with
  | nil =>
      cases rest with
      | nil => rfl
      | cons c rest =>
          have hc : c ≠ '.' := by
            rintro rfl
            exact absurd (hrest '.' rfl) (by decide)
          exact splitFraction_of_ne hc rest
  | cons c cs =>
      have hdigits : ∀ d ∈ c :: cs, isDigit d = true := fun d hd => isDigit_of_ascii (hcs d hd)
      have hend : ∀ d ∈ rest.head?, isDigit d = false := fun d hd =>
        isDigit_of_isBlank (hrest d hd)
      rw [fractionText, List.cons_append, splitFraction, takeWhile_append_of_head? hdigits hend,
        dropWhile_append_of_head? hdigits hend, List.isEmpty_cons, if_neg Bool.false_ne_true]

theorem takeWhile_number (n : ClassNumber) {rest : List Char}
    (hrest : ∀ c ∈ rest.head?, isBlank c = true) :
    (n.number ++ rest).takeWhile isDigit = n.integer := by
  have hend : ∀ c ∈ (fractionText n.fraction ++ rest).head?, isDigit c = false := by
    cases n.fraction with
    | nil => exact fun c hc => isDigit_of_isBlank (hrest c hc)
    | cons d ds =>
        rintro c ⟨⟩
        decide
  have hdigits : ∀ c ∈ n.integer, isDigit c = true := fun c hc =>
    isDigit_of_ascii (n.isDigit_integer c hc)
  rw [ClassNumber.number, List.append_assoc, takeWhile_append_of_head? hdigits hend]

/-- The parts of a class number are found, unless it has more digits than are looked at. -/
theorem partsAfter?_number (letters : List Char) {width : Option Nat} (n : ClassNumber)
    (hwidth : n.integer.length ≤ width.getD n.integer.length) {rest : List Char}
    (hrest : ∀ c ∈ rest.head?, isBlank c = true) :
    partsAfter? letters width (n.number ++ rest) =
      some ⟨letters, n.integer, fractionText n.fraction, trimStart rest⟩ := by
  rw [partsAfter?, takeWhile_number n hrest]
  dsimp only
  rw [List.take_of_length_le hwidth, ClassNumber.number, List.append_assoc, List.drop_left,
    splitFraction_fractionText n.isDigit_fraction hrest, if_neg (by simpa using n.integer_ne_nil)]

/-! ### Upper case without white space at the ends -/

namespace ClassNumber

variable (n : ClassNumber)

/-- What follows the fraction, as it is when the class number is looked for. -/
def ending : List Char := upper (trimEnd (n.gap ++ n.remainder))

theorem number_ne_nil : n.number ≠ [] := by
  rw [number, Ne, List.append_eq_nil_iff]
  exact fun h => n.integer_ne_nil h.1

theorem mem_number {c : Char} (h : c ∈ n.number) : c.isDigit = true ∨ c = '.' := by
  rcases List.mem_append.1 h with h | h
  · exact Or.inl (n.isDigit_integer c h)
  · have hfraction := n.isDigit_fraction
    cases hdigits : n.fraction with
    | nil =>
        rw [hdigits] at h
        cases h
    | cons d ds =>
        rw [hdigits] at h hfraction
        rcases List.mem_cons.1 h with rfl | h
        · exact Or.inr rfl
        · exact Or.inl (hfraction c h)

theorem isBlank_of_mem_number {c : Char} (h : c ∈ n.number) : isBlank c = false := by
  rcases n.mem_number h with hdigit | rfl
  · exact isBlank_of_isAsciiDigit hdigit
  · decide

theorem upper_number : upper n.number = n.number := by
  refine upper_of_forall fun c hc => ?_
  rcases n.mem_number hc with hdigit | rfl
  · exact upperChar_of_lt (Nat.lt_of_le_of_lt (isAsciiDigit_iff.1 hdigit).2 (by decide))
  · exact upperChar_of_lt (by decide)

theorem endsInWord_number (cs : List Char) : EndsInWord (cs ++ n.number) :=
  endsInWord_append cs n.number_ne_nil fun _ hc => n.isBlank_of_mem_number hc

theorem upper_trimEnd (cs : List Char) :
    upper (trimEnd (cs ++ n.text)) = upper cs ++ (n.number ++ n.ending) := by
  have htext : cs ++ n.text = cs ++ n.number ++ (n.gap ++ n.remainder) :=
    (List.append_assoc cs n.number _).symm
  rw [htext, (n.endsInWord_number cs).trimEnd_append, upper_append, upper_append, upper_number,
    ending, List.append_assoc]

theorem isBlank_head?_ending : ∀ c ∈ n.ending.head?, isBlank c = true := by
  have hhead : ∀ c ∈ (n.gap ++ n.remainder).head?, isBlank c = true := by
    intro c hc
    cases hgap : n.gap with
    | nil =>
        rw [hgap, n.remainder_eq_nil hgap] at hc
        cases hc
    | cons d ds =>
        rw [hgap] at hc
        obtain rfl : d = c := Option.some.inj hc
        exact n.isBlank_gap d (hgap ▸ List.mem_cons_self)
  intro c hc
  rw [ending] at hc
  cases hrest : trimEnd (n.gap ++ n.remainder) with
  | nil =>
      rw [hrest] at hc
      cases hc
  | cons d ds =>
      have hd : isBlank d = true := by
        refine hhead d (mem_head?_of_isPrefix (trimEnd_isPrefix _) ?_)
        rw [hrest]
        rfl
      rw [hrest, upper_cons, upperChar_of_isBlank hd] at hc
      obtain rfl : d = c := Option.some.inj hc
      exact hd

/-- No line breaks in what follows the white space behind the class number. -/
theorem not_mem_trimStart_ending : '\n' ∉ trimStart n.ending := by
  have hremainder : trimStart (n.gap ++ n.remainder) <:+ n.remainder := by
    rw [trimStart_append_of_forall n.isBlank_gap]
    exact List.dropWhile_suffix isBlank
  have hstart : trimStart (trimEnd (n.gap ++ n.remainder)) <+: trimStart (n.gap ++ n.remainder) :=
    trimStart_isPrefix (trimEnd_isPrefix _)
  rw [ending, trimStart_upper, mem_upper_iff (by decide)]
  exact fun h => n.not_mem_remainder (hremainder.subset (hstart.subset h))

end ClassNumber

end CatalogSearch.ShelfKey
