import CatalogSearch.Text.Blank
import CatalogSearch.Text.Digit
import Mathlib.Data.List.DropRight

/-!
Words and the white space around them. White space separates the words before it from those after
it, and of a text without its white space at the ends nothing but the amount and the kind of the
white space within it is lost when its words are put next to each other.
-/

namespace CatalogSearch.Text

variable {c : Char} {cs ds : List Char}

/-! ### White space and other characters -/

theorem inRanges_of_apart {ranges ranges' : List (Nat × Nat)} {code : Nat}
    (hapart : ∀ range ∈ ranges, ∀ range' ∈ ranges', range.2 < range'.1 ∨ range'.2 < range.1)
    (h : inRanges ranges code = true) : inRanges ranges' code = false := by
  rw [Bool.eq_false_iff, Ne, inRanges_eq_true_iff]
  rintro ⟨range', hrange', hin'⟩
  obtain ⟨range, hrange, hin⟩ := inRanges_eq_true_iff.1 h
  have := hapart range hrange range' hrange'
  omega

theorem isDigit_of_isBlank (h : isBlank c = true) : isDigit c = false :=
  inRanges_of_apart (by decide) h

theorem isBlank_of_isDigit (h : isDigit c = true) : isBlank c = false :=
  inRanges_of_apart (by decide) h

theorem isAsciiDigit_iff : c.isDigit = true ↔ 48 ≤ c.toNat ∧ c.toNat ≤ 57 := by
  rw [Char.isDigit, Bool.and_eq_true, decide_eq_true_eq, decide_eq_true_eq]
  rfl

theorem isDigit_of_ascii (h : c.isDigit = true) : isDigit c = true :=
  inRanges_eq_true_iff.2 ⟨(0x30, 0x39), List.mem_cons_self, isAsciiDigit_iff.1 h⟩

theorem isBlank_of_isAsciiDigit (h : c.isDigit = true) : isBlank c = false :=
  isBlank_of_isDigit (isDigit_of_ascii h)

/-! ### Words -/

theorem blankSeparated_ne_nil (cs : List Char) : blankSeparated cs ≠ [] := by
  cases cs with
  | nil => exact List.cons_ne_nil _ _
  | cons c cs =>
      rw [blankSeparated]
      split
      · exact List.cons_ne_nil _ _
      · split <;> exact List.cons_ne_nil _ _

theorem blankSeparated_cons_blank (hc : isBlank c = true) (cs : List Char) :
    blankSeparated (c :: cs) = [] :: blankSeparated cs := by
  rw [blankSeparated, if_pos hc]

theorem blankSeparated_cons (hc : isBlank c = false) {word : List Char} {rest : List (List Char)}
    (h : blankSeparated cs = word :: rest) : blankSeparated (c :: cs) = (c :: word) :: rest := by
  rw [blankSeparated, hc, if_neg Bool.false_ne_true, h]

theorem blankSeparated_append_cons (hc : isBlank c = true) (cs ds : List Char) :
    blankSeparated (cs ++ c :: ds) = blankSeparated cs ++ blankSeparated ds := by
  induction cs with
  | nil => exact blankSeparated_cons_blank hc ds
  | cons d cs ih =>
      rw [List.cons_append]
      cases hd : isBlank d with
      | true => rw [blankSeparated_cons_blank hd, blankSeparated_cons_blank hd, ih, List.cons_append]
      | false =>
          obtain ⟨word, rest, hcs⟩ := List.exists_cons_of_ne_nil (blankSeparated_ne_nil cs)
          rw [blankSeparated_cons hd hcs, List.cons_append]
          exact blankSeparated_cons hd (by rw [ih, hcs, List.cons_append])

theorem blankSeparated_append (hcs : ∀ c ∈ cs, isBlank c = false) {word : List Char}
    {rest : List (List Char)} (h : blankSeparated ds = word :: rest) :
    blankSeparated (cs ++ ds) = (cs ++ word) :: rest := by
  induction cs with
  | nil => exact h
  | cons c cs ih =>
      exact blankSeparated_cons (hcs c List.mem_cons_self)
        (ih fun d hd => hcs d (List.mem_cons_of_mem c hd))

@[simp]
theorem words_nil : words [] = [] := rfl

theorem words_append_cons (hc : isBlank c = true) (cs ds : List Char) :
    words (cs ++ c :: ds) = words cs ++ words ds := by
  rw [words, blankSeparated_append_cons hc, List.filter_append]
  rfl

theorem words_cons_blank (hc : isBlank c = true) (cs : List Char) :
    words (c :: cs) = words cs :=
  words_append_cons hc [] cs

theorem words_of_forall (hne : cs ≠ []) (hcs : ∀ c ∈ cs, isBlank c = false) : words cs = [cs] := by
  have hseparated : blankSeparated (cs ++ []) = [cs ++ []] := blankSeparated_append hcs rfl
  rw [List.append_nil] at hseparated
  rw [words, hseparated, List.filter_cons_of_pos (by simpa using hne), List.filter_nil]

/-- The words hold all characters but the white space. -/
theorem flatten_words (cs : List Char) : (words cs).flatten = cs.filter fun c => !isBlank c := by
  have hseparated : (blankSeparated cs).flatten = cs.filter fun c => !isBlank c := by
    induction cs with
    | nil => rfl
    | cons c cs ih =>
        cases hc : isBlank c with
        | true =>
            rw [blankSeparated_cons_blank hc, List.flatten_cons, List.nil_append, ih,
              List.filter_cons_of_neg (by simp [hc])]
        | false =>
            obtain ⟨word, rest, hcs⟩ := List.exists_cons_of_ne_nil (blankSeparated_ne_nil cs)
            rw [hcs, List.flatten_cons] at ih
            rw [blankSeparated_cons hc hcs, List.flatten_cons, List.cons_append, ih,
              List.filter_cons_of_pos (by simp [hc])]
  rw [words, ← hseparated]
  exact List.flatten_filter_not_isEmpty

theorem ne_nil_of_mem_words {word : List Char} (h : word ∈ words cs) : word ≠ [] := by
  simpa using (List.mem_filter.1 h).2

theorem not_isBlank_of_mem_words {word : List Char} (h : word ∈ words cs) :
    ∀ c ∈ word, isBlank c = false := by
  intro c hc
  have hmem : c ∈ (words cs).flatten := List.mem_flatten_of_mem h hc
  rw [flatten_words] at hmem
  simpa using (List.mem_filter.1 hmem).2

theorem words_eq_nil_iff : words cs = [] ↔ ∀ c ∈ cs, isBlank c = true := by
  constructor
  · intro h c hc
    have hflatten := flatten_words cs
    rw [h, List.flatten_nil] at hflatten
    simpa using List.filter_eq_nil_iff.1 hflatten.symm c hc
  · intro h
    have hflatten : (words cs).flatten = [] := by
      rw [flatten_words]
      exact List.filter_eq_nil_iff.2 fun c hc => by simp [h c hc]
    refine List.eq_nil_iff_forall_not_mem.2 fun word hword => ?_
    exact ne_nil_of_mem_words hword (List.flatten_eq_nil_iff.1 hflatten word hword)

/-- Characters are a word of their own where no word follows them at once. -/
theorem words_append_of_head? (hne : cs ≠ []) (hcs : ∀ c ∈ cs, isBlank c = false)
    (hds : ∀ d ∈ ds.head?, isBlank d = true) : words (cs ++ ds) = cs :: words ds := by
  have hword : words cs = [cs] := words_of_forall hne hcs
  cases ds with
  | nil => rw [List.append_nil, hword, words_nil]
  | cons d ds =>
      have hd := hds d rfl
      rw [words_append_cons hd, hword, words_cons_blank hd]
      rfl

theorem words_cons_of_head? (hc : isBlank c = false) (hcs : ∀ d ∈ cs.head?, isBlank d = true) :
    words (c :: cs) = [c] :: words cs :=
  words_append_of_head? (List.cons_ne_nil c []) (by simpa using hc) hcs

/-- A character before a word makes it one character longer. -/
theorem words_cons_cons (hc : isBlank c = false) {d : Char} (hd : isBlank d = false)
    (ds : List Char) :
    ∃ word rest, words (d :: ds) = word :: rest ∧ words (c :: d :: ds) = (c :: word) :: rest := by
  obtain ⟨word, rest, hds⟩ := List.exists_cons_of_ne_nil (blankSeparated_ne_nil ds)
  have hd' := blankSeparated_cons hd hds
  have hc' := blankSeparated_cons hc hd'
  refine ⟨d :: word, rest.filter fun word => !word.isEmpty, ?_, ?_⟩
  · rw [words, hd', List.filter_cons_of_pos rfl]
  · rw [words, hc', List.filter_cons_of_pos rfl]

/-! ### White space at the ends -/

theorem trimEnd_eq (cs : List Char) : trimEnd cs = cs.rdropWhile isBlank := rfl

theorem trimEnd_isPrefix (cs : List Char) : trimEnd cs <+: cs := List.rdropWhile_prefix isBlank cs

theorem trimStart_cons_blank (hc : isBlank c = true) (cs : List Char) :
    trimStart (c :: cs) = trimStart cs :=
  List.dropWhile_cons_of_pos hc

theorem trimStart_cons (hc : isBlank c = false) (cs : List Char) : trimStart (c :: cs) = c :: cs :=
  List.dropWhile_cons_of_neg (by simp [hc])

@[simp]
theorem trimStart_trimStart (cs : List Char) : trimStart (trimStart cs) = trimStart cs :=
  List.dropWhile_idempotent isBlank cs

theorem isBlank_of_trimStart_eq_cons {rest : List Char} (h : trimStart cs = c :: rest) :
    isBlank c = false := by
  have hhead := List.head?_dropWhile_not isBlank cs
  rwa [← trimStart, h] at hhead

theorem trimStart_append_of_forall (hcs : ∀ c ∈ cs, isBlank c = true) (ds : List Char) :
    trimStart (cs ++ ds) = trimStart ds :=
  List.dropWhile_append_of_pos hcs

theorem trimStart_isPrefix (h : cs <+: ds) : trimStart cs <+: trimStart ds := by
  obtain ⟨rest, rfl⟩ := h
  rw [trimStart, trimStart, List.dropWhile_append]
  split
  · next hempty =>
      rw [List.isEmpty_iff.1 hempty]
      exact List.nil_prefix
  · exact List.prefix_append _ rest

theorem trimStart_trim (cs : List Char) : trimStart (trim cs) = trim cs := by
  cases htrim : trim cs with
  | nil => rfl
  | cons c rest =>
      obtain ⟨tail, htail⟩ := trimEnd_isPrefix (trimStart cs)
      rw [← trim, htrim] at htail
      exact trimStart_cons (isBlank_of_trimStart_eq_cons htail.symm) rest

theorem words_trimStart (cs : List Char) : words (trimStart cs) = words cs := by
  induction cs with
  | nil => rfl
  | cons c cs ih =>
      cases hc : isBlank c with
      | true => rw [trimStart_cons_blank hc, words_cons_blank hc, ih]
      | false => rw [trimStart_cons hc]

theorem words_trimEnd (cs : List Char) : words (trimEnd cs) = words cs := by
  induction cs using List.reverseRecOn with
  | nil => rfl
  | append_singleton cs c ih =>
      rw [trimEnd_eq, List.rdropWhile_concat]
      split
      · next hc => rw [← trimEnd_eq, ih, words_append_cons hc, words_nil, List.append_nil]
      · rfl

theorem words_trim (cs : List Char) : words (trim cs) = words cs := by
  rw [trim, words_trimEnd, words_trimStart]

/-- A text that does not end in white space. -/
def EndsInWord (cs : List Char) : Prop := ∀ c ∈ cs.getLast?, isBlank c = false

theorem EndsInWord.words_ne_nil (h : EndsInWord cs) (hne : cs ≠ []) : words cs ≠ [] := by
  rw [Ne, words_eq_nil_iff]
  intro hblank
  have hlast := List.getLast?_eq_some_getLast hne
  have hword := h _ hlast
  rw [hblank _ (List.getLast_mem hne)] at hword
  cases hword

theorem EndsInWord.tail (h : EndsInWord (c :: cs)) : EndsInWord cs := by
  intro d hd
  cases cs with
  | nil => cases hd
  | cons e cs => exact h d (by rwa [List.getLast?_cons_cons])

theorem EndsInWord.append (h : EndsInWord ds) (hcs : ∀ c ∈ cs, isBlank c = false) :
    EndsInWord (cs ++ ds) := by
  intro c hc
  rw [List.getLast?_append] at hc
  cases hds : ds.getLast? with
  | none =>
      rw [hds] at hc
      exact hcs c (List.mem_of_mem_getLast? hc)
  | some d =>
      rw [hds] at hc
      exact h c (hds ▸ hc)

theorem endsInWord_append (cs : List Char) (hne : ds ≠ []) (hds : ∀ d ∈ ds, isBlank d = false) :
    EndsInWord (cs ++ ds) := by
  intro d hd
  rw [List.getLast?_append_of_ne_nil cs hne] at hd
  exact hds d (List.mem_of_mem_getLast? hd)

/-- White space in front is none at the end, unless there is nothing else. -/
theorem endsInWord_of_trimStart (hne : trimStart cs ≠ []) (h : EndsInWord (trimStart cs)) :
    EndsInWord cs := by
  intro c hc
  refine h c ?_
  rw [← List.takeWhile_append_dropWhile (p := isBlank) (l := cs), ← trimStart] at hc
  rwa [List.getLast?_append_of_ne_nil _ hne] at hc

theorem endsInWord_trimEnd (cs : List Char) : EndsInWord (trimEnd cs) := by
  intro c hc
  have hne : trimEnd cs ≠ [] := List.ne_nil_of_mem (List.mem_of_mem_getLast? hc)
  rw [List.getLast?_eq_some_getLast hne] at hc
  obtain rfl := Option.some.inj hc
  exact Bool.eq_false_iff.2 (List.rdropWhile_last_not isBlank cs hne)

/-- White space behind a word is all that goes. -/
theorem EndsInWord.trimEnd_append (h : EndsInWord cs) (ds : List Char) :
    trimEnd (cs ++ ds) = cs ++ trimEnd ds := by
  simp only [trimEnd_eq]
  induction ds using List.reverseRecOn with
  | nil =>
      rw [List.append_nil, List.rdropWhile_nil, List.append_nil, List.rdropWhile_eq_self_iff]
      exact fun hne => by simp [h _ (List.getLast?_eq_some_getLast hne)]
  | append_singleton ds d ih =>
      rw [← List.append_assoc, List.rdropWhile_concat, List.rdropWhile_concat]
      split
      · exact ih
      · exact List.append_assoc cs ds [d]

theorem EndsInWord.of_isSuffix (h : EndsInWord ds) (hcs : cs <:+ ds) : EndsInWord cs := by
  obtain ⟨before, rfl⟩ := hcs
  intro c hc
  refine h c ?_
  have hne : cs ≠ [] := List.ne_nil_of_mem (List.mem_of_mem_getLast? hc)
  rwa [List.getLast?_append_of_ne_nil before hne]

theorem trimEnd_append_of_forall (hds : ∀ d ∈ ds, isBlank d = true) :
    trimEnd (cs ++ ds) = trimEnd cs := by
  simp only [trimEnd_eq]
  induction ds using List.reverseRecOn with
  | nil => rw [List.append_nil]
  | append_singleton ds d ih =>
      rw [← List.append_assoc, List.rdropWhile_concat_pos _ _ _ (hds d (by simp))]
      exact ih fun e he => hds e (List.mem_append_left [d] he)

/-- White space around a text goes with that of the text. -/
theorem trim_append_append (hcs : ∀ c ∈ cs, isBlank c = true) (hds : ∀ d ∈ ds, isBlank d = true)
    (es : List Char) : trim (cs ++ (es ++ ds)) = trim es := by
  rw [trim, trim, trimStart_append_of_forall hcs, trimStart, trimStart, List.dropWhile_append]
  split
  · next hempty =>
      have hblank : ds.dropWhile isBlank = [] := List.dropWhile_eq_nil_iff.2 hds
      rw [hblank, List.isEmpty_iff.1 hempty]
  · exact trimEnd_append_of_forall hds

/-- Without white space at either end there is nothing to trim. -/
theorem trim_eq_self (hstart : ∀ c ∈ cs.head?, isBlank c = false) (hend : EndsInWord cs) :
    trim cs = cs := by
  have htrimStart : trimStart cs = cs := by
    cases cs with
    | nil => rfl
    | cons c rest => exact trimStart_cons (hstart c rfl) rest
  have htrimEnd := hend.trimEnd_append []
  rw [List.append_nil] at htrimEnd
  rw [trim, htrimStart, htrimEnd]
  exact List.append_nil cs

/-! ### Runs -/

theorem mem_head?_of_isPrefix (h : cs <+: ds) (hc : c ∈ cs.head?) : c ∈ ds.head? := by
  obtain ⟨rest, rfl⟩ := h
  rw [List.head?_append, hc]
  rfl

/-- A run ends where a character follows that is not one of it. -/
theorem takeWhile_append_of_head? {p : Char → Bool} (hcs : ∀ c ∈ cs, p c = true)
    (hds : ∀ d ∈ ds.head?, p d = false) : (cs ++ ds).takeWhile p = cs := by
  rw [List.takeWhile_append_of_pos hcs]
  cases ds with
  | nil => rw [List.takeWhile_nil, List.append_nil]
  | cons d ds => rw [List.takeWhile_cons_of_neg (by simp [hds d rfl]), List.append_nil]

theorem dropWhile_append_of_head? {p : Char → Bool} (hcs : ∀ c ∈ cs, p c = true)
    (hds : ∀ d ∈ ds.head?, p d = false) : (cs ++ ds).dropWhile p = ds := by
  rw [List.dropWhile_append_of_pos hcs]
  cases ds with
  | nil => rfl
  | cons d ds => exact List.dropWhile_cons_of_neg (by simp [hds d rfl])

/-! ### Runs of white space -/

theorem unwords_cons (word : List Char) {rest : List (List Char)} (hne : rest ≠ []) :
    unwords (word :: rest) = word ++ ' ' :: unwords rest := by
  obtain ⟨next, rest, rfl⟩ := List.exists_cons_of_ne_nil hne
  rfl

/-- A word is followed by a space or by nothing. -/
theorem exists_unwords_cons_eq (word : List Char) (rest : List (List Char)) :
    ∃ tail, (∀ c ∈ tail.head?, c = ' ') ∧ unwords (word :: rest) = word ++ tail := by
  cases rest with
  | nil =>
      refine ⟨[], fun c hc => ?_, rfl⟩
      cases hc
  | cons next rest =>
      refine ⟨' ' :: unwords (next :: rest), fun c hc => (Option.some.inj hc).symm, ?_⟩
      exact unwords_cons word (List.cons_ne_nil next rest)

theorem unwords_cons_cons (c : Char) (word : List Char) (rest : List (List Char)) :
    unwords ((c :: word) :: rest) = c :: unwords (word :: rest) := by
  cases rest <;> rfl

/-- A text with a single space in the place of each run of white space. -/
def squeeze : List Char → List Char
  | [] => []
  | c :: cs => if isBlank c then ' ' :: trimStart (squeeze cs) else c :: squeeze cs

theorem squeeze_cons_blank (hc : isBlank c = true) (cs : List Char) :
    squeeze (c :: cs) = ' ' :: trimStart (squeeze cs) := by
  rw [squeeze, if_pos hc]

theorem squeeze_cons (hc : isBlank c = false) (cs : List Char) :
    squeeze (c :: cs) = c :: squeeze cs := by
  rw [squeeze, hc, if_neg Bool.false_ne_true]

theorem squeeze_append (hcs : ∀ c ∈ cs, isBlank c = false) (ds : List Char) :
    squeeze (cs ++ ds) = cs ++ squeeze ds := by
  induction cs with
  | nil => rfl
  | cons c cs ih =>
      rw [List.cons_append, squeeze_cons (hcs c List.mem_cons_self),
        ih fun d hd => hcs d (List.mem_cons_of_mem c hd), List.cons_append]

/-- Where no white space is left, there was none. -/
theorem squeeze_of_forall (h : ∀ c ∈ squeeze cs, isBlank c = false) : squeeze cs = cs := by
  induction cs with
  | nil => rfl
  | cons c cs ih =>
      cases hc : isBlank c with
      | true =>
          rw [squeeze_cons_blank hc] at h
          exact absurd (h ' ' List.mem_cons_self) (by decide)
      | false =>
          rw [squeeze_cons hc] at h ⊢
          rw [ih fun d hd => h d (List.mem_cons_of_mem c hd)]

theorem trimStart_squeeze (cs : List Char) : trimStart (squeeze cs) = squeeze (trimStart cs) := by
  induction cs with
  | nil => rfl
  | cons c cs ih =>
      cases hc : isBlank c with
      | true =>
          have hspace : isBlank ' ' = true := by decide
          rw [squeeze_cons_blank hc, trimStart_cons_blank hspace, trimStart_trimStart, ih,
            trimStart_cons_blank hc]
      | false => rw [squeeze_cons hc, trimStart_cons hc, trimStart_cons hc, squeeze_cons hc]

theorem isBlank_head?_squeeze (h : ∀ d ∈ cs.head?, isBlank d = true) :
    ∀ d ∈ (squeeze cs).head?, isBlank d = true := by
  cases cs with
  | nil => exact h
  | cons c cs =>
      rw [squeeze_cons_blank (h c rfl)]
      rintro d ⟨⟩
      decide

theorem words_squeeze (cs : List Char) : words (squeeze cs) = words cs := by
  induction cs with
  | nil => rfl
  | cons c cs ih =>
      cases hc : isBlank c with
      | true =>
          rw [squeeze_cons_blank hc, words_cons_blank (by decide), words_trimStart, ih,
            words_cons_blank hc]
      | false =>
          rw [squeeze_cons hc]
          by_cases hhead : ∀ d ∈ cs.head?, isBlank d = true
          · rw [words_cons_of_head? hc (isBlank_head?_squeeze hhead), ih,
              words_cons_of_head? hc hhead]
          · cases cs with
            | nil => exact absurd (fun d hd => nomatch hd) hhead
            | cons d ds =>
                have hd : isBlank d = false := by simpa using hhead
                rw [squeeze_cons hd] at ih ⊢
                obtain ⟨word, rest, hwords, hwords'⟩ := words_cons_cons hc hd (squeeze ds)
                obtain ⟨word', rest', hds, hds'⟩ := words_cons_cons hc hd ds
                rw [hwords, hds] at ih
                obtain ⟨rfl, rfl⟩ := List.cons.inj ih
                rw [hwords', hds']

/-- A run that white space ends is the same after the white space has become less. -/
theorem takeWhile_squeeze {p : Char → Bool} (hp : ∀ c, isBlank c = true → p c = false)
    (cs : List Char) : (squeeze cs).takeWhile p = cs.takeWhile p := by
  induction cs with
  | nil => rfl
  | cons c cs ih =>
      cases hc : isBlank c with
      | true =>
          rw [squeeze_cons_blank hc, List.takeWhile_cons_of_neg (by simp [hp ' ' (by decide)]),
            List.takeWhile_cons_of_neg (by simp [hp c hc])]
      | false =>
          rw [squeeze_cons hc, List.takeWhile_cons, List.takeWhile_cons, ih]

theorem dropWhile_squeeze {p : Char → Bool} (hp : ∀ c, isBlank c = true → p c = false)
    (cs : List Char) : (squeeze cs).dropWhile p = squeeze (cs.dropWhile p) := by
  induction cs with
  | nil => rfl
  | cons c cs ih =>
      cases hc : isBlank c with
      | true =>
          rw [squeeze_cons_blank hc, List.dropWhile_cons_of_neg (by simp [hp ' ' (by decide)]),
            List.dropWhile_cons_of_neg (by simp [hp c hc]), squeeze_cons_blank hc]
      | false =>
          rw [squeeze_cons hc, List.dropWhile_cons, List.dropWhile_cons, ih]
          split
          · rfl
          · rw [squeeze_cons hc]

/-- Without white space in front and behind, nothing but words and single spaces is left. -/
theorem trimStart_squeeze_eq_unwords (h : EndsInWord cs) :
    trimStart (squeeze cs) = unwords (words cs) := by
  induction cs with
  | nil => rfl
  | cons c cs ih =>
      have ih := ih h.tail
      cases hc : isBlank c with
      | true =>
          rw [squeeze_cons_blank hc, trimStart_cons_blank (by decide), trimStart_trimStart, ih,
            words_cons_blank hc]
      | false =>
          rw [squeeze_cons hc, trimStart_cons hc]
          cases cs with
          | nil => rw [words_of_forall (List.cons_ne_nil c []) (by simpa using hc)]; rfl
          | cons d ds =>
              cases hd : isBlank d with
              | true =>
                  have hne : words (d :: ds) ≠ [] := h.tail.words_ne_nil (List.cons_ne_nil d ds)
                  have hhead : ∀ e ∈ (d :: ds).head?, isBlank e = true := by
                    rintro e ⟨⟩
                    exact hd
                  rw [words_cons_of_head? hc hhead, unwords_cons _ hne, ← ih,
                    squeeze_cons_blank hd, trimStart_cons_blank (by decide), trimStart_trimStart]
                  rfl
              | false =>
                  obtain ⟨word, rest, hwords, hwords'⟩ := words_cons_cons hc hd ds
                  rw [squeeze_cons hd, trimStart_cons hd, hwords] at ih
                  rw [hwords', unwords_cons_cons, ← ih, squeeze_cons hd]

/-- Texts with the same words differ in nothing but the white space around and between them. -/
theorem squeeze_trim (cs : List Char) : squeeze (trim cs) = unwords (words cs) := by
  have hend : EndsInWord (trim cs) := endsInWord_trimEnd (trimStart cs)
  rw [← words_trim, ← trimStart_squeeze_eq_unwords hend, trimStart_squeeze, trimStart_trim]

end CatalogSearch.Text
