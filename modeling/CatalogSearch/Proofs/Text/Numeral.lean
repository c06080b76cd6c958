import CatalogSearch.Text.Digit
import Mathlib.Data.Char
import Mathlib.Data.List.Lex
import Mathlib.Order.Monotone.Defs
import Mathlib.Tactic.Ring

/-!
Numbers written with digits, the first of which counts most. If the digits have the order of the
characters that stand for them, then numerals of one length have the order of texts. A numeral
without zeros in front is greater than any shorter one, so lengths decide first.
-/

namespace CatalogSearch.Text

/-- The number that characters write in a base. -/
def positional (base : Nat) (digit : Char → Nat) (cs : List Char) : Nat :=
  cs.foldl (fun n c => base * n + digit c) 0

/-- Symbols for the digits of a base, in ascending order. -/
structure Numerals (base : Nat) (digit : Char → Nat) (symbols : Set Char) : Prop where
  digit_lt : ∀ c ∈ symbols, digit c < base
  strictMono : StrictMonoOn digit symbols

section Positional

variable {base : Nat} {digit : Char → Nat}

/-- What is before digits is moved up by their number of places. -/
theorem foldl_eq_positional (cs : List Char) (n : Nat) :
    cs.foldl (fun n c => base * n + digit c) n = n * base ^ cs.length + positional base digit cs := by
  unfold positional
  induction cs generalizing n with
  | nil => simp
  | cons c cs ih =>
      rw [List.foldl_cons, List.foldl_cons, ih (base * n + digit c), ih (base * 0 + digit c),
        List.length_cons]
      ring

theorem positional_cons (c : Char) (cs : List Char) :
    positional base digit (c :: cs) = digit c * base ^ cs.length + positional base digit cs := by
  rw [positional, List.foldl_cons, foldl_eq_positional, Nat.mul_zero, Nat.zero_add]

theorem positional_concat (cs : List Char) (c : Char) :
    positional base digit (cs ++ [c]) = base * positional base digit cs + digit c := by
  rw [positional, List.foldl_append]
  rfl

/-- Zeros in front of a numeral make no difference. -/
theorem positional_replicate_append {zero : Char} (hzero : digit zero = 0) (n : Nat)
    (cs : List Char) :
    positional base digit (List.replicate n zero ++ cs) = positional base digit cs := by
  induction n with
  | zero => rfl
  | succ n ih =>
      rw [List.replicate_succ, List.cons_append, positional_cons, hzero, Nat.zero_mul,
        Nat.zero_add, ih]

end Positional

namespace Numerals

variable {base : Nat} {digit : Char → Nat} {symbols : Set Char} (h : Numerals base digit symbols)
  {cs ds : List Char}

include h

theorem positional_lt (hcs : ∀ c ∈ cs, c ∈ symbols) :
    positional base digit cs < base ^ cs.length := by
  induction cs with
  | nil => simp [positional]
  | cons c cs ih =>
      have hdigit : digit c + 1 ≤ base := h.digit_lt c (hcs c List.mem_cons_self)
      have hrest := ih fun d hd => hcs d (List.mem_cons_of_mem c hd)
      calc positional base digit (c :: cs)
          = digit c * base ^ cs.length + positional base digit cs := positional_cons c cs
        _ < digit c * base ^ cs.length + base ^ cs.length := Nat.add_lt_add_left hrest _
        _ = (digit c + 1) * base ^ cs.length := by ring
        _ ≤ base * base ^ cs.length := Nat.mul_le_mul_right _ hdigit
        _ = base ^ (c :: cs).length := by rw [List.length_cons, pow_succ']

/-- The first of two digits that differ decides, whatever digits follow. -/
theorem positional_cons_lt {c d : Char} (hlt : digit c < digit d) (hcs : ∀ e ∈ cs, e ∈ symbols)
    (hlength : cs.length = ds.length) :
    positional base digit (c :: cs) < positional base digit (d :: ds) := by
  have hrest := h.positional_lt hcs
  calc positional base digit (c :: cs)
      = digit c * base ^ cs.length + positional base digit cs := positional_cons c cs
    _ < digit c * base ^ cs.length + base ^ cs.length := Nat.add_lt_add_left hrest _
    _ = (digit c + 1) * base ^ cs.length := by ring
    _ ≤ digit d * base ^ cs.length := Nat.mul_le_mul_right _ hlt
    _ ≤ digit d * base ^ ds.length + positional base digit ds := by
        rw [hlength]
        exact Nat.le_add_right _ _
    _ = positional base digit (d :: ds) := (positional_cons d ds).symm

theorem positional_lt_positional (hcs : ∀ c ∈ cs, c ∈ symbols) (hds : ∀ d ∈ ds, d ∈ symbols)
    (hlength : cs.length = ds.length) (hlt : cs < ds) :
    positional base digit cs < positional base digit ds := by
  induction cs generalizing ds with
  | nil =>
      obtain rfl := List.length_eq_zero_iff.1 hlength.symm
      exact absurd hlt (List.lt_irrefl [])
  | cons c cs ih =>
      cases ds with
      | nil => cases hlength
      | cons d ds =>
          have hlength' : cs.length = ds.length := Nat.succ.inj hlength
          have hcs' : ∀ e ∈ cs, e ∈ symbols := fun e he => hcs e (List.mem_cons_of_mem c he)
          have hds' : ∀ e ∈ ds, e ∈ symbols := fun e he => hds e (List.mem_cons_of_mem d he)
          rcases List.cons_lt_cons_iff.1 hlt with hcd | ⟨rfl, hrest⟩
          · have hdigits : digit c < digit d :=
              h.strictMono (hcs c List.mem_cons_self) (hds d List.mem_cons_self) hcd
            exact h.positional_cons_lt hdigits hcs' hlength'
          · rw [positional_cons, positional_cons, hlength']
            exact Nat.add_lt_add_left (ih hcs' hds' hlength' hrest) _

/-- Numerals of one length have the order of texts. -/
theorem positional_lt_iff (hcs : ∀ c ∈ cs, c ∈ symbols) (hds : ∀ d ∈ ds, d ∈ symbols)
    (hlength : cs.length = ds.length) :
    positional base digit cs < positional base digit ds ↔ cs < ds := by
  refine ⟨fun hlt => ?_, h.positional_lt_positional hcs hds hlength⟩
  rcases lt_trichotomy cs ds with hcd | rfl | hdc
  · exact hcd
  · exact absurd hlt (lt_irrefl _)
  · exact absurd hlt (h.positional_lt_positional hds hcs hlength.symm hdc).not_gt

theorem positional_eq_iff (hcs : ∀ c ∈ cs, c ∈ symbols) (hds : ∀ d ∈ ds, d ∈ symbols)
    (hlength : cs.length = ds.length) :
    positional base digit cs = positional base digit ds ↔ cs = ds := by
  refine ⟨fun heq => ?_, fun heq => congrArg _ heq⟩
  have hcd := (h.positional_lt_iff hcs hds hlength).not.1 (heq ▸ lt_irrefl _)
  have hdc := (h.positional_lt_iff hds hcs hlength.symm).not.1 (heq ▸ lt_irrefl _)
  exact le_antisymm (not_lt.1 hdc) (not_lt.1 hcd)

/-- A numeral with no zero in front is greater than a shorter one. -/
theorem positional_lt_of_length_lt {d : Char} (hd : 0 < digit d) (hcs : ∀ c ∈ cs, c ∈ symbols)
    (hds : ∀ e ∈ d :: ds, e ∈ symbols) (hlength : cs.length < (d :: ds).length) :
    positional base digit cs < positional base digit (d :: ds) := by
  have hbase : 0 < base := Nat.zero_lt_of_lt (h.digit_lt d (hds d List.mem_cons_self))
  calc positional base digit cs
      < base ^ cs.length := h.positional_lt hcs
    _ ≤ base ^ ds.length := Nat.pow_le_pow_right hbase (Nat.le_of_lt_succ hlength)
    _ ≤ digit d * base ^ ds.length := Nat.le_mul_of_pos_left _ hd
    _ ≤ digit d * base ^ ds.length + positional base digit ds := Nat.le_add_right _ _
    _ = positional base digit (d :: ds) := (positional_cons d ds).symm

end Numerals

end CatalogSearch.Text
