import CatalogSearch.Normalizer.ShelfKey
import CatalogSearch.Proofs.Text.Upper

/-!
Shelf keys and white space. How much white space there is between the words of a call number, and of
which kind, makes no difference to the parts that it is taken apart into, and none to the key that
they form. One kind of white space does make a difference: a call number is not taken apart at all
if a line breaks within what follows its class number, and then its words are its key.
-/

namespace CatalogSearch.ShelfKey

open Text

/-! ### Parts, wherever lines break -/

/-- Takes a call number apart after its class letters, wherever its lines break. -/
def partsAfter? (letters : List Char) (width : Option Nat) (cs : List Char) : Option Parts :=
  let run := cs.takeWhile isDigit
  let integer := run.take (width.getD run.length)
  if integer.isEmpty then none
  else
    let (fraction, rest) := splitFraction (cs.drop integer.length)
    some ⟨letters, integer, fraction, trimStart rest⟩

/-- Takes a call number apart, wherever its lines break. It has class letters or none. -/
def parts? (cs : List Char) : Option Parts :=
  let letters := cs.takeWhile isClassLetter
  if letters.isEmpty then partsAfter? [] (some 3) cs
  else if 3 < letters.length then none
  else partsAfter? letters none (trimStart (cs.dropWhile isClassLetter))

/-- Whether a line breaks within what follows the class number. -/
def Parts.isBroken (p : Parts) : Bool := p.remainder.contains '\n'

/-- The key of a call number that is taken apart. -/
def Parts.key (p : Parts) : List Char :=
  if p.letters.isEmpty then p.numberedKey else p.letteredKey

theorem afterLetters?_eq (letters : List Char) (width : Option Nat) (cs : List Char) :
    afterLetters? letters width cs =
      (partsAfter? letters width cs).filter fun p => !p.isBroken := by
  simp only [afterLetters?, partsAfter?]
  split
  · rfl
  · rw [Option.filter_some, remainder?]
    split
    · next hbroken => rw [if_neg (by simpa [Parts.isBroken] using hbroken)]; rfl
    · next hbroken => rw [if_pos (by simpa [Parts.isBroken] using hbroken)]; rfl

theorem letters_of_partsAfter? {letters cs : List Char} {width : Option Nat} {p : Parts}
    (h : partsAfter? letters width cs = some p) : p.letters = letters := by
  simp only [partsAfter?] at h
  split at h
  · cases h
  · obtain rfl := Option.some.inj h
    rfl

/-! ### Classes of characters -/

theorem inRanges_of_isClassLetter {c : Char} (h : isClassLetter c = true) :
    inRanges [(0x41, 0x5A)] c.toNat = true := by
  rw [isClassLetter, Bool.and_eq_true, decide_eq_true_eq, decide_eq_true_eq] at h
  have hfirst : 0x41 ≤ c.toNat := h.1
  have hlast : c.toNat ≤ 0x5A := h.2
  simp [inRanges, hfirst, hlast]

theorem isDigit_of_isClassLetter {c : Char} (h : isClassLetter c = true) : isDigit c = false :=
  inRanges_of_apart (by decide) (inRanges_of_isClassLetter h)

theorem isBlank_of_isClassLetter {c : Char} (h : isClassLetter c = true) : isBlank c = false :=
  inRanges_of_apart (by decide) (inRanges_of_isClassLetter h)

theorem isClassLetter_of_isBlank {c : Char} (h : isBlank c = true) : isClassLetter c = false := by
  rw [← Bool.not_eq_true]
  intro hletter
  rw [isBlank_of_isClassLetter hletter] at h
  cases h

theorem isClassLetter_of_isDigit {c : Char} (h : isDigit c = true) : isClassLetter c = false := by
  rw [← Bool.not_eq_true]
  intro hletter
  rw [isDigit_of_isClassLetter hletter] at h
  cases h

/-! ### Keys of parts -/

/-- A call number that starts with a letter is none that starts with a number. -/
theorem numbered?_of_isClassLetter {c : Char} {rest cs : List Char}
    (h : cs.takeWhile isClassLetter = c :: rest) : numbered? cs = none := by
  have hc : isClassLetter c = true := List.mem_takeWhile_imp (h ▸ List.mem_cons_self)
  obtain ⟨tail, rfl⟩ : c :: rest <+: cs := h ▸ List.takeWhile_prefix isClassLetter
  rw [numbered?, afterLetters?, List.cons_append,
    List.takeWhile_cons_of_neg (by simp [isDigit_of_isClassLetter hc])]
  rfl

/-- The key is that of the parts, unless there are none or a line breaks in them. -/
theorem ofTrimmed_eq (cs : List Char) :
    ofTrimmed cs = match (parts? cs).filter fun p => !p.isBroken with
      | some p => p.key
      | none => unwords (words cs) := by
  rw [ofTrimmed, lettered?, parts?]
  cases hletters : cs.takeWhile isClassLetter with
  | nil =>
      simp only [List.isEmpty_nil, Bool.true_or, if_pos, numbered?, afterLetters?_eq]
      cases hparts : (partsAfter? [] (some 3) cs).filter fun p => !p.isBroken with
      | none => rfl
      | some p =>
          have hnil := letters_of_partsAfter? (Option.filter_eq_some_iff.1 hparts).1
          simp only [Parts.key, hnil, List.isEmpty_nil, if_pos]
  | cons c rest =>
      simp only [numbered?_of_isClassLetter hletters, List.isEmpty_cons, Bool.false_or,
        decide_eq_true_eq, Bool.false_eq_true, if_false, afterLetters?_eq]
      split_ifs
      · rfl
      · cases hparts : (partsAfter? (c :: rest) none (trimStart (cs.dropWhile isClassLetter))).filter
            fun p => !p.isBroken with
        | none => rfl
        | some p =>
            have hcons := letters_of_partsAfter? (Option.filter_eq_some_iff.1 hparts).1
            simp [Parts.key, hcons]

/-! ### Less white space -/

/-- The parts with single spaces in what follows the class number. -/
def Parts.squeezed (p : Parts) : Parts := { p with remainder := squeeze p.remainder }

theorem splitFraction_of_ne {c : Char} (hc : c ≠ '.') (cs : List Char) :
    splitFraction (c :: cs) = ([], c :: cs) := by
  rw [splitFraction]
  rintro ds ⟨⟩
  exact hc rfl

theorem splitFraction_squeeze (cs : List Char) :
    splitFraction (squeeze cs) = ((splitFraction cs).1, squeeze (splitFraction cs).2) := by
  cases cs with
  | nil => rfl
  | cons c cs =>
      by_cases hpoint : c = '.'
      · subst hpoint
        rw [squeeze_cons (by decide), splitFraction, splitFraction,
          takeWhile_squeeze fun _ => isDigit_of_isBlank,
          dropWhile_squeeze fun _ => isDigit_of_isBlank]
        split_ifs
        · rw [squeeze_cons (by decide)]
        · rfl
      · cases hc : isBlank c with
        | true =>
            rw [splitFraction_of_ne hpoint, squeeze_cons_blank hc,
              splitFraction_of_ne (by decide)]
        | false => rw [splitFraction_of_ne hpoint, squeeze_cons hc, splitFraction_of_ne hpoint]

theorem drop_squeeze {digits cs : List Char} (hstart : digits <+: cs)
    (hdigits : ∀ c ∈ digits, isBlank c = false) :
    (squeeze cs).drop digits.length = squeeze (cs.drop digits.length) := by
  obtain ⟨rest, rfl⟩ := hstart
  rw [squeeze_append hdigits, List.drop_left, List.drop_left]

theorem partsAfter?_squeeze (letters : List Char) (width : Option Nat) (cs : List Char) :
    partsAfter? letters width (squeeze cs) =
      (partsAfter? letters width cs).map Parts.squeezed := by
  rw [partsAfter?, partsAfter?, takeWhile_squeeze fun _ => isDigit_of_isBlank]
  dsimp only
  generalize hinteger : (cs.takeWhile isDigit).take (width.getD (cs.takeWhile isDigit).length) =
    integer
  have htake : integer <+: cs.takeWhile isDigit := hinteger ▸ List.take_prefix _ _
  have hdigits : ∀ c ∈ integer, isBlank c = false := fun c hc =>
    isBlank_of_isDigit (List.mem_takeWhile_imp (htake.subset hc))
  rw [drop_squeeze (htake.trans (List.takeWhile_prefix isDigit)) hdigits, splitFraction_squeeze,
    trimStart_squeeze]
  split_ifs <;> rfl

theorem parts?_squeeze (cs : List Char) :
    parts? (squeeze cs) = (parts? cs).map Parts.squeezed := by
  rw [parts?, parts?, takeWhile_squeeze fun _ => isClassLetter_of_isBlank,
    dropWhile_squeeze fun _ => isClassLetter_of_isBlank, trimStart_squeeze, partsAfter?_squeeze,
    partsAfter?_squeeze]
  split_ifs <;> rfl

theorem cutters_squeeze (cs : List Char) : cutters (squeeze cs) = cutters cs := by
  rw [cutters, cutters, words_squeeze]

theorem Parts.key_squeezed (p : Parts) : p.squeezed.key = p.key := by
  simp only [key, numberedKey, letteredKey, squeezed, cutters_squeeze]

/-! ### Keys of texts with the same words -/

/-- Whether a line of a call number breaks within what follows its class number. -/
def breaksLine (s : String) : Bool := (parts? (upper (trim s.toList))).any Parts.isBroken

/-- Texts with the same words become the same with single spaces between them. -/
theorem squeeze_upper_trim {cs ds : List Char} (h : words cs = words ds) :
    squeeze (upper (trim cs)) = squeeze (upper (trim ds)) := by
  rw [squeeze_upper, squeeze_upper, squeeze_trim, squeeze_trim, h]

theorem words_upper_trim (cs : List Char) : words (upper (trim cs)) = (words cs).map upper := by
  rw [words_upper, words_trim]

theorem ofTrimmed_of_isBroken {cs : List Char} (h : (parts? cs).any Parts.isBroken = true) :
    ofTrimmed cs = unwords (words cs) := by
  rw [ofTrimmed_eq]
  cases hparts : parts? cs with
  | none => rfl
  | some p =>
      rw [hparts, Option.any_some] at h
      rw [Option.filter_some, h]
      rfl

theorem ofTrimmed_of_not_isBroken {cs : List Char}
    (h : (parts? cs).any Parts.isBroken = false) :
    ofTrimmed cs = ((parts? cs).map Parts.key).getD (unwords (words cs)) := by
  rw [ofTrimmed_eq]
  cases hparts : parts? cs with
  | none => rfl
  | some p =>
      rw [hparts, Option.any_some] at h
      rw [Option.filter_some, h]
      rfl

/-- What counts is the words, and whether a line breaks within the parts. -/
theorem ofTrimmed_congr {cs ds : List Char} (hsqueeze : squeeze cs = squeeze ds)
    (hbroken : (parts? cs).any Parts.isBroken = (parts? ds).any Parts.isBroken) :
    ofTrimmed cs = ofTrimmed ds := by
  have hwords : words cs = words ds := by
    rw [← words_squeeze cs, ← words_squeeze ds, hsqueeze]
  have hkeys (es : List Char) :
      (parts? es).map Parts.key = (parts? (squeeze es)).map Parts.key := by
    rw [parts?_squeeze, Option.map_map]
    exact congrArg (Option.map · _) (funext fun p => p.key_squeezed.symm)
  cases hds : (parts? ds).any Parts.isBroken with
  | true =>
      rw [hds] at hbroken
      rw [ofTrimmed_of_isBroken hbroken, ofTrimmed_of_isBroken hds, hwords]
  | false =>
      rw [hds] at hbroken
      rw [ofTrimmed_of_not_isBroken hbroken, ofTrimmed_of_not_isBroken hds, hkeys cs, hsqueeze,
        ← hkeys ds, hwords]

/-- **White space that breaks no line of the parts makes no difference.** Texts with the same words
have the same shelf key if a line breaks within what follows the class number in both of them or in
neither. Where one breaks, the key is the words in upper case, as if the text were no call number.
-/
theorem make_of_words_eq (s t : String) (h : words s.toList = words t.toList) :
    (breaksLine s = breaksLine t → make s = make t) ∧
      (breaksLine t = true →
        make t = String.ofList (unwords ((words s.toList).map upper))) := by
  constructor
  · intro hbreaks
    rw [make, make, ofTrimmed_congr (squeeze_upper_trim h) hbreaks]
  · intro hbreaks
    rw [make, ofTrimmed_of_isBroken hbreaks, words_upper_trim, h]

/-- A line break in front of the cutter keeps the key, one behind it does not. -/
theorem make_of_words_eq_lines :
    words "QA 76 .J38 1999".toList = words "QA\t76\n.J38  1999".toList ∧
      make "QA\t76\n.J38  1999" = "QA 276 J38 1999" ∧
      words "QA 76 .J38 1999".toList = words "QA 76 .J38\n1999".toList ∧
      make "QA 76 .J38\n1999" = "QA 76 .J38 1999" := by
  have hgap : words "QA 76 .J38 1999".toList = words "QA\t76\n.J38  1999".toList := by
    decide +kernel
  have hline : words "QA 76 .J38 1999".toList = words "QA 76 .J38\n1999".toList := by
    decide +kernel
  have hkey : make "QA 76 .J38 1999" = "QA 276 J38 1999" := by decide +kernel
  refine ⟨hgap, ?_, hline, ?_⟩
  · rw [← (make_of_words_eq _ _ hgap).1 (by decide +kernel), hkey]
  · rw [(make_of_words_eq _ _ hline).2 (by decide +kernel)]
    decide +kernel

/-- The key is not determined by the words. -/
theorem not_forall_make_eq_of_words_eq :
    ¬ ∀ s t : String, words s.toList = words t.toList → make s = make t := by
  intro h
  have hkeys := h "QA 76 A B" "QA 76 A\nB" (by decide +kernel)
  revert hkeys
  decide +kernel

end CatalogSearch.ShelfKey
