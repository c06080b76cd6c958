/-!
Numbers in decimal notation. They are read from ASCII digits alone, also where a pattern accepts the
digits of all scripts.
-/

namespace CatalogSearch.Text

/-- The number that a run of ASCII digits writes; any other character is not looked at. -/
def natOfDigits (cs : List Char) : Nat :=
  cs.foldl (fun n c => 10 * n + (c.toNat - 48)) 0

/-- Reads a nonempty run of ASCII digits, and nothing else, as a number. -/
def nat? (cs : List Char) : Option Nat :=
  if !cs.isEmpty && cs.all Char.isDigit then some (natOfDigits cs) else none

theorem nat?_eq_some_iff {cs : List Char} {n : Nat} :
    nat? cs = some n ↔ cs ≠ [] ∧ (∀ c ∈ cs, c.isDigit = true) ∧ n = natOfDigits cs := by
  unfold nat?
  by_cases h : cs ≠ [] ∧ ∀ c ∈ cs, c.isDigit = true
  · rw [if_pos (by simpa using h), Option.some.injEq, ← and_assoc, and_iff_right h]
    exact eq_comm
  · rw [if_neg (by simpa using h)]
    refine iff_of_false (by simp) ?_
    rintro ⟨hne, hall, -⟩
    exact h ⟨hne, hall⟩

/-- Reads ASCII digits after an optional sign. -/
def int? : List Char → Option Int
  | '-' :: cs => (nat? cs).map fun n => -(n : Int)
  | '+' :: cs => (nat? cs).map fun n => (n : Int)
  | cs => (nat? cs).map fun n => (n : Int)

/-- Reads a count of 64 bits, which may have a plus sign. -/
def count? (cs : List Char) : Option Nat :=
  let digits := match cs with
    | '+' :: rest => rest
    | cs => cs
  (nat? digits).filter fun n => n < 0x10000000000000000

end CatalogSearch.Text
