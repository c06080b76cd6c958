import CatalogSearch.Proofs.Text.Numeral
import CatalogSearch.Proofs.Text.Words
import Mathlib.Data.Nat.Digits.Defs

/-!
Numbers in ASCII digits. A digit counts ten times as much as the one after it, and a number is below
the power of ten for its digits. So a count of up to nineteen digits always fits into 64 bits, and
only the digits themselves decide whether it can be read.
-/

namespace CatalogSearch.Text

theorem numerals_decimal : Numerals 10 (fun c => c.toNat - 48) {c | c.isDigit = true} where
  digit_lt c hc := by
    have hdigit := isAsciiDigit_iff.1 hc
    omega
  strictMono c hc d hd h := by
    have hc' := isAsciiDigit_iff.1 hc
    have hd' := isAsciiDigit_iff.1 hd
    have hlt : c.toNat < d.toNat := h
    dsimp only
    omega

theorem natOfDigits_lt {cs : List Char} (h : ∀ c ∈ cs, c.isDigit = true) :
    natOfDigits cs < 10 ^ cs.length :=
  numerals_decimal.positional_lt h

theorem natOfDigits_eq_ofDigits (cs : List Char) :
    natOfDigits cs = Nat.ofDigits 10 (cs.reverse.map fun c => c.toNat - 48) := by
  rw [Nat.ofDigits_eq_foldr, List.map_reverse, List.foldr_reverse, List.foldl_map, natOfDigits]
  simp only [Nat.cast_id, Nat.add_comm]

/-- Decimal digits of any script begin with no plus sign, and nineteen of them are no count that is
too large. -/
theorem count?_eq_nat? {cs : List Char} (h : ∀ c ∈ cs, isDigit c = true)
    (hlength : cs.length ≤ 19) : count? cs = nat? cs := by
  have hsign : count? cs = (nat? cs).filter fun n => n < 0x10000000000000000 := by
    unfold count?
    split
    -- A plus sign is a digit of no script.
    · exact absurd (h '+' List.mem_cons_self) (by decide)
    · rfl
  rw [hsign]
  cases hn : nat? cs with
  | none => rfl
  | some n =>
      obtain ⟨-, hall, rfl⟩ := nat?_eq_some_iff.1 hn
      have hlt : natOfDigits cs < 0x10000000000000000 :=
        calc natOfDigits cs
            < 10 ^ cs.length := natOfDigits_lt hall
          _ ≤ 10 ^ 19 := Nat.pow_le_pow_right (by decide) hlength
          _ < 0x10000000000000000 := by decide
      rw [Option.filter_some, if_pos (decide_eq_true hlt)]

end CatalogSearch.Text
