import CatalogSearch.Proofs.Expression.Text
import Mathlib.Data.List.Chain

/-!
Search literals as a reader of queries takes them. For a reader a backslash protects the character
behind it, whichever that is, while the writer puts backslashes before double quotes and leaves
those of the text alone. Before most characters such a backslash does no harm, since it is read as
part of the text together with what it protects. Before a backslash or a double quote, the closing
one among them, it is taken for an escape, and then the literal ends elsewhere, does not end, or
stands for another text.
-/

namespace CatalogSearch.Text

/-- Reads a literal behind its opening quote: its content, and what follows the closing quote. A
backslash protects the character behind it, and the first double quote that is not protected closes
the literal. -/
def scanContent? : List Char → Option (List Char × List Char)
  | [] => none
  | '"' :: rest => some ([], rest)
  | '\\' :: c :: rest => (scanContent? rest).map fun scanned => ('\\' :: c :: scanned.1, scanned.2)
  | c :: rest => (scanContent? rest).map fun scanned => (c :: scanned.1, scanned.2)

/-- Reads the literal at the start of a text. -/
def scanLiteral? : List Char → Option (List Char × List Char)
  | '"' :: rest => scanContent? rest
  | _ => none

/-- The text that a content stands for: a backslash that protects a backslash or a double quote is
left out. -/
def unescape : List Char → List Char
  | [] => []
  | '\\' :: c :: rest =>
    if c = '"' ∨ c = '\\' then c :: unescape rest else '\\' :: c :: unescape rest
  | c :: rest => c :: unescape rest

/-- Whether a literal ends where the text ends, and stands for the given characters. -/
def ReadsAs (literal cs : List Char) : Prop :=
  ∃ content, scanLiteral? literal = some (content, []) ∧ unescape content = cs

/-! ### One character after the other -/

variable {c : Char} {cs rest : List Char}

/-- A backslash with nothing to protect is the last character. -/
theorem eq_nil_of_not_protecting (h : ∀ d tail, c = '\\' → rest = d :: tail → False)
    (hc : c = '\\') : rest = [] := by
  cases rest with
  | nil => rfl
  | cons d tail => exact (h d tail hc rfl).elim

theorem scanContent?_protected (c : Char) (rest : List Char) : scanContent? ('\\' :: c :: rest) =
    (scanContent? rest).map fun scanned => ('\\' :: c :: scanned.1, scanned.2) := rfl

theorem scanContent?_cons (hquote : c ≠ '"') (hbackslash : c = '\\' → rest = []) :
    scanContent? (c :: rest) =
      (scanContent? rest).map fun scanned => (c :: scanned.1, scanned.2) := by
  rw [scanContent?]
  · exact hquote
  · intro d tail hc hrest
    exact absurd (hbackslash hc) (hrest ▸ List.cons_ne_nil d tail)

theorem unescape_protected (hc : c = '"' ∨ c = '\\') (rest : List Char) :
    unescape ('\\' :: c :: rest) = c :: unescape rest := by
  rw [unescape, if_pos hc]

theorem unescape_backslash_cons (hc : ¬ (c = '"' ∨ c = '\\')) (rest : List Char) :
    unescape ('\\' :: c :: rest) = '\\' :: c :: unescape rest := by
  rw [unescape, if_neg hc]

theorem unescape_cons (hbackslash : c = '\\' → rest = []) :
    unescape (c :: rest) = c :: unescape rest := by
  rw [unescape]
  intro d tail hc hrest
  exact absurd (hbackslash hc) (hrest ▸ List.cons_ne_nil d tail)

/-- The scanner loses nothing but the closing quote. -/
theorem append_of_scanContent? {text content after : List Char}
    (hscan : scanContent? text = some (content, after)) : content ++ '"' :: after = text := by
  induction text using scanContent?.induct generalizing content with
  | case1 => exact absurd hscan (by simp [scanContent?])
  | case2 rest =>
      obtain ⟨rfl, rfl⟩ := Prod.mk.inj (Option.some.inj hscan)
      rfl
  | case3 c rest ih =>
      rw [scanContent?_protected] at hscan
      obtain ⟨scanned, hrest, hcontent⟩ := Option.map_eq_some_iff.1 hscan
      obtain ⟨rfl, rfl⟩ := Prod.mk.inj hcontent
      rw [List.cons_append, List.cons_append, ih hrest]
  | case4 c rest hquote hprotected ih =>
      rw [scanContent?_cons hquote (eq_nil_of_not_protecting hprotected)] at hscan
      obtain ⟨scanned, hrest, hcontent⟩ := Option.map_eq_some_iff.1 hscan
      obtain ⟨rfl, rfl⟩ := Prod.mk.inj hcontent
      rw [List.cons_append, ih hrest]

/-! ### The writer's literals -/

/-- Whether the literal that is written for the given characters is read as them. -/
def ReadsBack (cs : List Char) : Prop :=
  scanContent? (escapeQuotes cs ++ ['"']) = some (escapeQuotes cs, []) ∧
    unescape (escapeQuotes cs) = cs

theorem toList_quote (s : String) : (quote s).toList = '"' :: (escapeQuotes s.toList ++ ['"']) :=
  String.toList_ofList

/-- If a literal ends where the text ends, then its content is what the writer put there. -/
theorem readsAs_quote (s : String) : ReadsAs (quote s).toList s.toList ↔ ReadsBack s.toList := by
  rw [ReadsAs, toList_quote, scanLiteral?]
  constructor
  · intro ⟨content, hscan, hcontent⟩
    obtain rfl : content = escapeQuotes s.toList :=
      List.append_cancel_right (append_of_scanContent? hscan)
    exact ⟨hscan, hcontent⟩
  · intro ⟨hscan, hcontent⟩
    exact ⟨escapeQuotes s.toList, hscan, hcontent⟩

theorem readsBack_nil : ReadsBack [] := ⟨rfl, rfl⟩

theorem readsBack_quote_cons : ReadsBack ('"' :: cs) ↔ ReadsBack cs := by
  rw [ReadsBack, escapeQuotes_cons_quote, List.cons_append, List.cons_append,
    scanContent?_protected, unescape_protected (.inl rfl)]
  apply and_congr
  · simp [Option.map_eq_some_iff]
  · exact List.cons_inj_right '"'

theorem readsBack_cons (hquote : c ≠ '"') (hbackslash : c ≠ '\\') :
    ReadsBack (c :: cs) ↔ ReadsBack cs := by
  rw [ReadsBack, escapeQuotes_cons hquote, List.cons_append,
    scanContent?_cons hquote (absurd · hbackslash), unescape_cons (absurd · hbackslash)]
  apply and_congr
  · simp [Option.map_eq_some_iff]
  · exact List.cons_inj_right c

/-- A backslash that protects neither a quote nor a backslash is read with what it protects. -/
theorem readsBack_backslash_cons (hc : ¬ (c = '"' ∨ c = '\\')) :
    ReadsBack ('\\' :: c :: cs) ↔ ReadsBack cs := by
  have hquote : c ≠ '"' := fun h => hc (.inl h)
  rw [ReadsBack, escapeQuotes_cons (by decide), escapeQuotes_cons hquote, List.cons_append,
    List.cons_append, scanContent?_protected, unescape_backslash_cons hc]
  apply and_congr
  · simp [Option.map_eq_some_iff]
  · rw [List.cons_inj_right, List.cons_inj_right]

/-- Reading adds no character: each one that the writer added is left out, if it has not closed the
literal, and some of the text may be left out as well. -/
theorem length_unescape_escapeQuotes_le (cs : List Char) :
    (unescape (escapeQuotes cs)).length ≤ cs.length := by
  induction cs using unescape.induct with
  | case1 => exact Nat.le_refl 0
  | case2 c rest hc ih =>
      rw [escapeQuotes_cons (by decide)]
      by_cases hquote : c = '"'
      · subst hquote
        have hne : '"' ≠ '\\' := by decide
        rw [escapeQuotes_cons_quote, unescape_protected (.inr rfl), unescape_cons (absurd · hne)]
        exact Nat.add_le_add_right ih 2
      · rw [escapeQuotes_cons hquote, unescape_protected hc]
        exact (Nat.add_le_add_right ih 1).trans (Nat.le_succ _)
  | case3 c rest hc ih =>
      have hquote : c ≠ '"' := fun h => hc (.inl h)
      rw [escapeQuotes_cons (by decide), escapeQuotes_cons hquote, unescape_backslash_cons hc]
      exact Nat.add_le_add_right ih 2
  | case4 c rest hprotected ih =>
      by_cases hquote : c = '"'
      · subst hquote
        rw [escapeQuotes_cons_quote, unescape_protected (.inl rfl)]
        exact Nat.add_le_add_right ih 1
      · have hbackslash : c = '\\' → escapeQuotes rest = [] := by
          intro hc
          rw [eq_nil_of_not_protecting hprotected hc]
          rfl
        rw [escapeQuotes_cons hquote, unescape_cons hbackslash]
        exact Nat.add_le_add_right ih 1

theorem not_readsBack_singleton : ¬ ReadsBack ['\\'] := by
  intro ⟨hscan, _⟩
  exact absurd hscan (by decide)

/-- Before a double quote a backslash of the text takes up the protection that the writer meant for
the quote, which then closes the literal. Before another backslash, one of the two is lost. -/
theorem not_readsBack_protecting (hc : c = '"' ∨ c = '\\') :
    ¬ ReadsBack ('\\' :: c :: cs) := by
  intro ⟨hscan, hcontent⟩
  cases hc with
  | inl hquote =>
      -- The literal closes behind the two backslashes, with text still to come.
      subst hquote
      have hclosed : scanContent? (escapeQuotes ('\\' :: '"' :: cs) ++ ['"']) =
          some (['\\', '\\'], escapeQuotes cs ++ ['"']) := by
        rw [escapeQuotes_cons (by decide), escapeQuotes_cons_quote]
        rfl
      rw [hclosed] at hscan
      have hafter := (Prod.mk.inj (Option.some.inj hscan)).2
      exact List.append_ne_nil_of_right_ne_nil _ (List.cons_ne_nil _ _) hafter
  | inr hbackslash =>
      -- What is read would have to make up for the backslash that is left out.
      subst hbackslash
      rw [escapeQuotes_cons (by decide), escapeQuotes_cons (by decide),
        unescape_protected (.inr rfl), List.cons_inj_right] at hcontent
      have hle := length_unescape_escapeQuotes_le cs
      rw [hcontent, List.length_cons] at hle
      exact absurd hle (Nat.not_succ_le_self _)

/-! ### Backslashes that do no harm -/

/-- Whether no backslash of a text stands before a backslash, a double quote or the end. -/
def PlainBackslashes (cs : List Char) : Prop :=
  ∀ before c after, cs ++ ['"'] = before ++ '\\' :: c :: after → ¬ (c = '"' ∨ c = '\\')

theorem plainBackslashes_iff_isChain : PlainBackslashes cs ↔
    (cs ++ ['"']).IsChain fun c d => c = '\\' → ¬ (d = '"' ∨ d = '\\') := by
  rw [List.isChain_iff_forall_rel_of_append_cons_cons]
  constructor
  · intro hplain c d before after hcs hc
    subst hc
    exact hplain before d after hcs
  · intro hplain before c after hcs
    exact hplain hcs rfl

instance : DecidablePred PlainBackslashes := fun _ =>
  decidable_of_iff _ plainBackslashes_iff_isChain.symm

theorem plainBackslashes_nil : PlainBackslashes [] := by
  rw [plainBackslashes_iff_isChain]
  exact List.isChain_singleton _

theorem plainBackslashes_cons (hc : c ≠ '\\') :
    PlainBackslashes (c :: cs) ↔ PlainBackslashes cs := by
  rw [plainBackslashes_iff_isChain, plainBackslashes_iff_isChain, List.cons_append,
    List.isChain_cons]
  exact and_iff_right fun _ _ h => absurd h hc

theorem plainBackslashes_backslash_cons (hc : ¬ (c = '"' ∨ c = '\\')) :
    PlainBackslashes ('\\' :: c :: cs) ↔ PlainBackslashes cs := by
  calc PlainBackslashes ('\\' :: c :: cs)
      ↔ PlainBackslashes (c :: cs) := by
        rw [plainBackslashes_iff_isChain, plainBackslashes_iff_isChain, List.cons_append,
          List.cons_append, List.isChain_cons_cons]
        exact and_iff_right fun _ => hc
    _ ↔ PlainBackslashes cs := plainBackslashes_cons fun h => hc (.inr h)

theorem not_plainBackslashes_protecting (hc : c = '"' ∨ c = '\\') :
    ¬ PlainBackslashes ('\\' :: c :: cs) :=
  fun hplain => hplain [] c (cs ++ ['"']) rfl hc

theorem not_plainBackslashes_singleton : ¬ PlainBackslashes ['\\'] :=
  fun hplain => hplain [] '"' [] rfl (.inl rfl)

/-- By induction along the reader, which takes a backslash together with what it protects. -/
theorem readsBack_iff_plainBackslashes (cs : List Char) : ReadsBack cs ↔ PlainBackslashes cs := by
  induction cs using unescape.induct with
  | case1 => exact iff_of_true readsBack_nil plainBackslashes_nil
  | case2 c rest hc _ =>
      exact iff_of_false (not_readsBack_protecting hc) (not_plainBackslashes_protecting hc)
  | case3 c rest hc ih =>
      rw [readsBack_backslash_cons hc, plainBackslashes_backslash_cons hc]
      exact ih
  | case4 c rest hprotected ih =>
      by_cases hbackslash : c = '\\'
      · obtain rfl := eq_nil_of_not_protecting hprotected hbackslash
        subst hbackslash
        exact iff_of_false not_readsBack_singleton not_plainBackslashes_singleton
      · by_cases hquote : c = '"'
        · subst hquote
          rw [readsBack_quote_cons, plainBackslashes_cons hbackslash]
          exact ih
        · rw [readsBack_cons hquote hbackslash, plainBackslashes_cons hbackslash]
          exact ih

/-- **The literals that read back**: a text is read from the literal that is written for it exactly
if none of its backslashes stands before a backslash, a double quote or the end of the text. -/
theorem readsAs_quote_iff (s : String) :
    ReadsAs (quote s).toList s.toList ↔ PlainBackslashes s.toList := by
  rw [readsAs_quote, readsBack_iff_plainBackslashes]

example : PlainBackslashes "the \"C:\\temp\" folder".toList := by decide

/-- The literal of a single backslash does not close. -/
theorem not_forall_readsAs_quote : ¬ ∀ s : String, ReadsAs (quote s).toList s.toList := by
  intro hall
  obtain ⟨content, hscan, _⟩ := hall "\\"
  exact absurd hscan (by simp [quote, escapeQuotes, scanLiteral?, scanContent?])

end CatalogSearch.Text
