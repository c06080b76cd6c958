import CatalogSearch.Expression.Text
import CatalogSearch.Text.Blank
import Mathlib.Data.List.Basic

/-!
Canonical texts can be read in one way only. A literal escapes double quotes but no backslashes, so
a backslash at its end looks as if it escaped the closing quote. What settles where literals end is
that each of them opens behind a space: if a quote closed a literal in one reading and stood inside
it in another one, the two readings would open and close literals in turn, and neither could end
before the other. Parentheses and words outside literals then give the expression.
-/

namespace CatalogSearch.Text

/-! ### Where literals end -/

/-- Text outside literals: the quotes in it open literals behind a space, and close them. -/
inductive Outside : List Char → Prop where
  | gap {gap : List Char} (hgap : '"' ∉ gap) : Outside gap
  | literal {gap rest : List Char} (value : List Char) (hgap : '"' ∉ gap) (hrest : Outside rest) :
      Outside (gap ++ ' ' :: '"' :: (escapeQuotes value ++ '"' :: rest))

theorem escapeQuotes_cons_quote (value : List Char) :
    escapeQuotes ('"' :: value) = '\\' :: '"' :: escapeQuotes value := rfl

theorem escapeQuotes_cons {c : Char} (hc : c ≠ '"') (value : List Char) :
    escapeQuotes (c :: value) = c :: escapeQuotes value := by
  rw [escapeQuotes, List.flatMap_cons, if_neg hc]
  rfl

theorem Outside.append {gap rest : List Char} (hgap : '"' ∉ gap) (hrest : Outside rest) :
    Outside (gap ++ rest) := by
  cases hrest with
  | gap hgap' => exact .gap (by simp [hgap, hgap'])
  | literal value hgap' hrest =>
      rw [← List.append_assoc]
      exact .literal value (by simp [hgap, hgap']) hrest

theorem Outside.close {rest : List Char} (hrest : Outside rest) : Outside (')' :: rest) :=
  append (List.mem_singleton.not.2 (by decide)) hrest

/-- A quote in front of the rest of a literal closes it. -/
theorem eq_nil_of_quote_cons_eq {value rest tail : List Char}
    (h : '"' :: rest = escapeQuotes value ++ '"' :: tail) : value = [] ∧ rest = tail := by
  cases value with
  | nil => exact ⟨rfl, (List.cons.inj h).2⟩
  | cons c value =>
      by_cases hc : c = '"'
      · subst hc
        rw [escapeQuotes_cons_quote] at h
        exact absurd (List.cons.inj h).1 (by decide)
      · rw [escapeQuotes_cons hc] at h
        exact absurd (List.cons.inj h).1.symm hc

/-- A quote behind a space is not escaped: inside a literal it is the one that closes it. -/
theorem eq_of_gap_quote_eq {gap value rest tail : List Char} (hgap : '"' ∉ gap)
    (h : gap ++ ' ' :: '"' :: rest = escapeQuotes value ++ '"' :: tail) : rest = tail := by
  induction value generalizing gap with
  | nil =>
      cases gap with
      | nil => exact absurd (List.cons.inj h).1 (by decide)
      | cons g gap =>
          rw [(List.cons.inj h).1] at hgap
          exact absurd List.mem_cons_self hgap
  | cons c value ih =>
      by_cases hc : c = '"'
      · subst hc
        rw [escapeQuotes_cons_quote] at h
        match gap with
        | [] => exact absurd (List.cons.inj h).1 (by decide)
        | [g] => exact absurd (List.cons.inj (List.cons.inj h).2).1 (by decide)
        | g :: g' :: gap =>
            rw [(List.cons.inj (List.cons.inj h).2).1] at hgap
            exact absurd (List.mem_cons_of_mem g List.mem_cons_self) hgap
      · rw [escapeQuotes_cons hc] at h
        cases gap with
        | nil => exact (eq_nil_of_quote_cons_eq (List.cons.inj h).2).2
        | cons g gap => exact ih (List.not_mem_of_not_mem_cons hgap) (List.cons.inj h).2

/-- What is outside literals in one reading is not the inside of a literal in another one: the next
quote would open a literal in the first reading and close it in the second, and the readings would
have changed places in front of a shorter text. -/
theorem Outside.ne_inside {text tail : List Char} (htext : Outside text) (htail : Outside tail)
    (value : List Char) : text ≠ escapeQuotes value ++ '"' :: tail := by
  induction hlength : text.length using Nat.strongRecOn generalizing text tail value with
  | _ n ih =>
      intro h
      cases htext with
      | gap hgap =>
          rw [h] at hgap
          simp at hgap
      | @literal gap rest value' hgap hrest =>
          obtain rfl := eq_of_gap_quote_eq hgap h
          refine ih _ ?_ htail hrest value' rfl rfl
          rw [← hlength]
          simp only [List.length_append, List.length_cons]
          omega

/-- **A literal ends at one place only**, if it is followed by text outside literals. -/
theorem eq_of_literal_eq {value value' rest rest' : List Char} (hrest : Outside rest)
    (hrest' : Outside rest')
    (h : escapeQuotes value ++ '"' :: rest = escapeQuotes value' ++ '"' :: rest') :
    value = value' ∧ rest = rest' := by
  induction value generalizing value' with
  | nil =>
      obtain ⟨hvalue', hrests⟩ := eq_nil_of_quote_cons_eq h
      exact ⟨hvalue'.symm, hrests⟩
  | cons c value ih =>
      cases value' with
      | nil => exact absurd (eq_nil_of_quote_cons_eq h.symm).1 (List.cons_ne_nil c value)
      | cons d value' =>
          by_cases hc : c = '"' <;> by_cases hd : d = '"'
          · subst hc hd
            rw [escapeQuotes_cons_quote, escapeQuotes_cons_quote] at h
            obtain ⟨hvalue, hrests⟩ := ih (List.cons.inj (List.cons.inj h).2).2
            exact ⟨congrArg _ hvalue, hrests⟩
          · -- The quote is escaped on the left and closes the literal on the right.
            subst hc
            rw [escapeQuotes_cons_quote, escapeQuotes_cons hd] at h
            obtain ⟨-, hrests⟩ := eq_nil_of_quote_cons_eq (List.cons.inj h).2
            exact absurd hrests.symm (hrest'.ne_inside hrest value)
          · subst hd
            rw [escapeQuotes_cons hc, escapeQuotes_cons_quote] at h
            obtain ⟨-, hrests⟩ := eq_nil_of_quote_cons_eq (List.cons.inj h).2.symm
            exact absurd hrests.symm (hrest.ne_inside hrest' value')
          · rw [escapeQuotes_cons hc, escapeQuotes_cons hd] at h
            obtain ⟨hchar, htail⟩ := List.cons.inj h
            obtain ⟨hvalue, hrests⟩ := ih htail
            exact ⟨congrArg₂ _ hchar hvalue, hrests⟩

/-- A word ends at the first space. -/
theorem eq_of_word_eq {word word' rest rest' : List Char} (hword : ' ' ∉ word)
    (hword' : ' ' ∉ word') (h : word ++ ' ' :: rest = word' ++ ' ' :: rest') :
    word = word' ∧ rest = rest' := by
  have hsplit := congrArg (List.splitOn ' ') h
  rw [List.splitOn_append_cons_self_of_not_mem hword,
    List.splitOn_append_cons_self_of_not_mem hword'] at hsplit
  obtain rfl := (List.cons.inj hsplit).1
  exact ⟨rfl, (List.cons.inj (List.append_cancel_left h)).2⟩

end CatalogSearch.Text

namespace CatalogSearch

/-- A word of a query: it is not empty and holds no white space, double quotes or parentheses. -/
def IsWord (s : String) : Prop :=
  s ≠ "" ∧ ∀ c ∈ s.toList, Text.isBlank c = false ∧ c ≠ '"' ∧ c ≠ '(' ∧ c ≠ ')'

instance (s : String) : Decidable (IsWord s) := @instDecidableAnd _ _ _ (List.decidableBAll _ _)

namespace IsWord

variable {s : String} (h : IsWord s)

include h

theorem space_notMem : ' ' ∉ s.toList := by
  intro hspace
  exact absurd (h.2 ' ' hspace).1 (by decide)

theorem quote_notMem : '"' ∉ s.toList := fun hquote => (h.2 '"' hquote).2.1 rfl

theorem exists_cons : ∃ c cs, s.toList = c :: cs ∧ c ≠ '(' := by
  cases hs : s.toList with
  | nil => exact absurd (String.toList_eq_nil_iff.1 hs) h.1
  | cons c cs => exact ⟨c, cs, rfl, (h.2 c (hs ▸ List.mem_cons_self)).2.2.1⟩

end IsWord

namespace Connective

theorem space_notMem_text (op : Connective) : ' ' ∉ op.text.toList := by
  cases op <;> decide

theorem quote_notMem_text (op : Connective) : '"' ∉ op.text.toList := by
  cases op <;> decide

theorem eq_of_text_eq {op op' : Connective} (h : op.text = op'.text) : op = op' := by
  revert h
  cases op <;> cases op' <;> decide

end Connective

namespace Expression

/-- Clauses without modifiers whose index and comparator are words, joined by connectives. -/
inductive Plain : Expression → Prop where
  | clause {index comparator : String} (term : String) (hindex : IsWord index)
      (hcomparator : IsWord comparator) : Plain (.clause ⟨index, comparator, term, []⟩)
  | boolean (op : Connective) {left right : Expression} (hleft : Plain left)
      (hright : Plain right) : Plain (.boolean op left right)

/-- The characters of an expression where it is an operand. -/
def operandText (e : Expression) : List Char := (e.parenthesize e.text).toList

theorem operandText_clause (index comparator term : String) (rest : List Char) :
    operandText (.clause ⟨index, comparator, term, []⟩) ++ rest =
      index.toList ++ ' ' :: (comparator.toList ++
        ' ' :: '"' :: (Text.escapeQuotes term.toList ++ '"' :: rest)) := by
  simp [operandText, parenthesize, text, Clause.text, modifiersText, Text.quote]

theorem text_boolean (op : Connective) (left right : Expression) :
    (boolean op left right).text.toList =
      left.operandText ++ ' ' :: (op.text.toList ++ ' ' :: right.operandText) := by
  simp [operandText, text]

theorem operandText_boolean (op : Connective) (left right : Expression) (rest : List Char) :
    operandText (.boolean op left right) ++ rest =
      '(' :: (left.operandText ++ ' ' :: (op.text.toList ++ ' ' ::
        (right.operandText ++ ')' :: rest))) := by
  simp [operandText, parenthesize, text]

/-- The text of an expression is outside literals where its words are. -/
theorem Plain.outside {e : Expression} (he : e.Plain) {gap rest : List Char} (hgap : '"' ∉ gap)
    (hrest : Text.Outside rest) : Text.Outside (gap ++ (e.operandText ++ rest)) := by
  induction he generalizing gap rest with
  | @clause index comparator term hindex hcomparator =>
      have hgap' : '"' ∉ gap ++ index.toList ++ ' ' :: comparator.toList := by
        simp [hgap, hindex.quote_notMem, hcomparator.quote_notMem]
      have houtside := Text.Outside.literal term.toList hgap' hrest
      simpa [operandText_clause] using houtside
  | @boolean op left right hleft hright ihleft ihright =>
      have hword : '"' ∉ ' ' :: (op.text.toList ++ [' ']) := by simp [op.quote_notMem_text]
      have hopen : '"' ∉ gap ++ ['('] := by simp [hgap]
      have houtside := ihleft hopen (ihright hword hrest.close)
      simpa [operandText_boolean] using houtside

/-- What follows the first operand of a connective is outside literals. -/
theorem Plain.outside_right {right : Expression} (hright : right.Plain) (op : Connective)
    {rest : List Char} (hrest : Text.Outside rest) :
    Text.Outside (' ' :: (op.text.toList ++ ' ' :: (right.operandText ++ rest))) := by
  have hword : '"' ∉ ' ' :: (op.text.toList ++ [' ']) := by simp [op.quote_notMem_text]
  simpa using hright.outside hword hrest

/-- **An operand can be read in one way only**, by induction on the expression. -/
theorem Plain.eq_of_operandText_eq {e f : Expression} (he : e.Plain) (hf : f.Plain)
    {rest rest' : List Char} (hrest : Text.Outside rest) (hrest' : Text.Outside rest')
    (h : e.operandText ++ rest = f.operandText ++ rest') : e = f ∧ rest = rest' := by
  induction he generalizing f rest rest' with
  | @clause index comparator term hindex hcomparator =>
      cases hf with
      | @clause index' comparator' term' hindex' hcomparator' =>
          rw [operandText_clause, operandText_clause] at h
          obtain ⟨hindexes, h⟩ := Text.eq_of_word_eq hindex.space_notMem hindex'.space_notMem h
          obtain ⟨hcomparators, h⟩ :=
            Text.eq_of_word_eq hcomparator.space_notMem hcomparator'.space_notMem h
          obtain ⟨hterms, hrests⟩ := Text.eq_of_literal_eq hrest hrest' (List.cons.inj h).2
          rw [String.toList_inj.1 hindexes, String.toList_inj.1 hcomparators,
            String.toList_inj.1 hterms]
          exact ⟨rfl, hrests⟩
      | boolean op _ _ =>
          obtain ⟨c, cs, hcs, hc⟩ := hindex.exists_cons
          rw [operandText_clause, operandText_boolean, hcs] at h
          exact absurd (List.cons.inj h).1 hc
  | @boolean op left right hleft hright ihleft ihright =>
      cases hf with
      | @clause index comparator term hindex hcomparator =>
          obtain ⟨c, cs, hcs, hc⟩ := hindex.exists_cons
          rw [operandText_clause, operandText_boolean, hcs] at h
          exact absurd (List.cons.inj h).1.symm hc
      | @boolean op' left' right' hleft' hright' =>
          rw [operandText_boolean, operandText_boolean] at h
          obtain ⟨hlefts, htail⟩ := ihleft hleft' (hright.outside_right op hrest.close)
            (hright'.outside_right op' hrest'.close) (List.cons.inj h).2
          obtain ⟨hwords, htail⟩ := Text.eq_of_word_eq op.space_notMem_text op'.space_notMem_text
            (List.cons.inj htail).2
          obtain ⟨hrights, htail⟩ := ihright hright' hrest.close hrest'.close htail
          rw [hlefts, hrights, Connective.eq_of_text_eq (String.toList_inj.1 hwords)]
          exact ⟨rfl, (List.cons.inj htail).2⟩

/-- A clause is no beginning of a text that goes on behind it. -/
theorem Plain.text_clause_ne {cl : Clause} {op : Connective} {left right : Expression}
    (hcl : Plain (.clause cl)) (hjoin : Plain (.boolean op left right)) :
    (Expression.clause cl).text ≠ (Expression.boolean op left right).text := by
  intro h
  cases hjoin with
  | boolean _ hleft hright =>
      have hnil : Text.Outside [] := .gap List.not_mem_nil
      have hrest : Text.Outside (' ' :: (op.text.toList ++ ' ' :: right.operandText)) := by
        simpa using hright.outside_right op hnil
      have hchars : operandText (.clause cl) ++ [] =
          left.operandText ++ ' ' :: (op.text.toList ++ ' ' :: right.operandText) := by
        rw [← text_boolean, ← h, List.append_nil]
        rfl
      exact absurd (hcl.eq_of_operandText_eq hleft hnil hrest hchars).2 (List.cons_ne_nil _ _).symm

theorem Plain.operandText_eq {e f : Expression} (he : e.Plain) (hf : f.Plain)
    (h : e.text = f.text) : e.operandText = f.operandText := by
  cases he with
  | clause term hindex hcomparator =>
      cases hf with
      | clause => exact congrArg String.toList h
      | boolean op hleft hright =>
          have hne := text_clause_ne (.clause term hindex hcomparator) (.boolean op hleft hright)
          exact absurd h hne
  | boolean op hleft hright =>
      cases hf with
      | clause term hindex hcomparator =>
          have hne := text_clause_ne (.clause term hindex hcomparator) (.boolean op hleft hright)
          exact absurd h.symm hne
      | boolean => simp only [operandText, parenthesize, h]

/-- **Canonical texts are unambiguous.** Two expressions of clauses without modifiers, joined by
connectives in any way, whose indexes and comparators are words have the same text only if they are
the same, whatever the values of their clauses are. -/
theorem text_eq_text_iff (e f : Expression) (he : e.Plain) (hf : f.Plain) :
    e.text = f.text ↔ e = f := by
  constructor
  · intro h
    have hnil : Text.Outside [] := .gap List.not_mem_nil
    have hchars : e.operandText ++ [] = f.operandText ++ [] :=
      congrArg (· ++ []) (he.operandText_eq hf h)
    exact (he.eq_of_operandText_eq hf hnil hnil hchars).1
  · rintro rfl
    rfl

/-- A single clause, with a value that goes on like a query. -/
def lookalike : Expression := .clause ⟨"title", "=", "dune\" and genre = \"novel", []⟩

/-- Two clauses, the first of them with a backslash at the end of its value. -/
def backslashed : Expression :=
  .boolean .and (.clause ⟨"title", "=", "dune\\", []⟩) (.clause ⟨"genre", "=", "novel", []⟩)

/-- The two texts are the same up to one backslash, far behind the place where they could have been
taken for each other. -/
theorem text_lookalike_ne : lookalike.Plain ∧ backslashed.Plain ∧
    lookalike.text = "title = \"dune\\\" and genre = \\\"novel\"" ∧
    backslashed.text = "title = \"dune\\\" and genre = \"novel\"" ∧
    lookalike.text ≠ backslashed.text := by
  have hlookalike : lookalike.Plain := .clause _ (by decide) (by decide)
  have hbackslashed : backslashed.Plain :=
    .boolean _ (.clause _ (by decide) (by decide)) (.clause _ (by decide) (by decide))
  refine ⟨hlookalike, hbackslashed, by decide +kernel, by decide +kernel, fun h => ?_⟩
  cases (text_eq_text_iff lookalike backslashed hlookalike hbackslashed).1 h

end Expression

end CatalogSearch
