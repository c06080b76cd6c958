import Mathlib.Data.Char
import Mathlib.Data.List.Lex

/-!
The order of texts by their bytes in UTF-8. The bytes of a character are smaller than those of every
later character at the first place where the two differ, and there is such a place whatever follows
them. So bytes order texts exactly as characters do, and texts can be compared at the first
character in which they differ.
-/

namespace CatalogSearch.Text

/-- Whether the bytes of a text come before those of another one. -/
def BytesBefore (s t : String) : Prop := s.toUTF8.data.toList < t.toUTF8.data.toList

theorem toNat_val_lt (c : Char) : c.val.toNat < 0x110000 := by
  have hvalid := c.valid
  unfold UInt32.isValidChar Nat.isValidChar at hvalid
  omega

/-- The cases are the numbers of bytes that the two characters take. -/
theorem utf8EncodeChar_append_lt {c d : Char} (h : c < d) (xs ys : List UInt8) :
    String.utf8EncodeChar c ++ xs < String.utf8EncodeChar d ++ ys := by
  have hlt : c.val.toNat < d.val.toNat := h
  have hmax := toNat_val_lt d
  simp only [String.utf8EncodeChar]
  generalize c.val.toNat = m at *
  generalize d.val.toNat = n at *
  -- Quotients of quotients, so that each byte is a digit in base 64 of the one before.
  rw [show m / 262144 = m / 64 / 64 / 64 by omega, show n / 262144 = n / 64 / 64 / 64 by omega,
    show m / 4096 = m / 64 / 64 by omega, show n / 4096 = n / 64 / 64 by omega]
  split_ifs <;>
    simp only [List.cons_append, List.nil_append, List.cons_lt_cons_iff, UInt8.lt_iff_toNat_lt,
      ← UInt8.toNat_inj, UInt8.toNat_ofNat'] <;>
    omega

/-- The bytes of characters one after the other. -/
def bytes (cs : List Char) : List UInt8 := cs.flatMap String.utf8EncodeChar

theorem bytes_lt_bytes {cs ds : List Char} (h : cs < ds) : bytes cs < bytes ds := by
  induction ds generalizing cs with
  | nil => exact absurd h (List.not_lt_nil cs)
  | cons d ds ih =>
      cases cs with
      | nil =>
          have hne : bytes (d :: ds) ≠ [] := by simp [bytes]
          obtain ⟨b, bs, hbytes⟩ := List.exists_cons_of_ne_nil hne
          rw [hbytes]
          exact List.Lex.nil
      | cons c cs =>
          simp only [bytes, List.flatMap_cons]
          rcases List.cons_lt_cons_iff.1 h with hlt | ⟨rfl, hlt⟩
          · exact utf8EncodeChar_append_lt hlt _ _
          · exact List.Lex.append_left (· < ·) (ih hlt) _

theorem bytes_lt_bytes_iff {cs ds : List Char} : bytes cs < bytes ds ↔ cs < ds := by
  constructor
  · intro h
    rcases lt_trichotomy cs ds with hlt | rfl | hlt
    · exact hlt
    · exact absurd h (List.lt_irrefl _)
    · exact absurd h (List.lt_asymm (bytes_lt_bytes hlt))
  · exact bytes_lt_bytes

theorem data_toUTF8 (s : String) : s.toUTF8.data.toList = bytes s.toList := by
  rw [String.toUTF8, ← String.utf8Encode_toList, List.utf8Encode, List.toList_data_toByteArray]
  rfl

/-- Texts stand in the order of their characters. -/
theorem bytesBefore_iff {s t : String} : BytesBefore s t ↔ s.toList < t.toList := by
  rw [BytesBefore, data_toUTF8, data_toUTF8, bytes_lt_bytes_iff]

@[simp]
theorem bytesBefore_ofList_iff {cs ds : List Char} :
    BytesBefore (String.ofList cs) (String.ofList ds) ↔ cs < ds := by
  rw [bytesBefore_iff, String.toList_ofList, String.toList_ofList]

/-- A difference between two texts decides whatever follows them, unless the first one ends where
they begin to differ; then what follows it has to begin with a smaller character. -/
theorem append_lt_append {cs ds : List Char} (h : cs < ds) {rest : List Char}
    (hrest : ∀ c ∈ rest.head?, ∀ d ∈ ds, c < d) (rest' : List Char) : cs ++ rest < ds ++ rest' := by
  induction ds generalizing cs with
  | nil => exact absurd h (List.not_lt_nil cs)
  | cons d ds ih =>
      cases cs with
      | nil =>
          cases rest with
          | nil => exact List.Lex.nil
          | cons c rest => exact List.Lex.rel (hrest c rfl d List.mem_cons_self)
      | cons c cs =>
          rcases List.cons_lt_cons_iff.1 h with hlt | ⟨rfl, hlt⟩
          · exact List.Lex.rel hlt
          · exact List.Lex.cons (ih hlt fun e he d hd => hrest e he d (List.mem_cons_of_mem c hd))

/-- What follows texts of one length decides nothing. -/
theorem append_lt_append_of_length_eq {cs ds : List Char} (hlength : cs.length = ds.length)
    (h : cs < ds) (rest rest' : List Char) : cs ++ rest < ds ++ rest' := by
  induction ds generalizing cs with
  | nil => exact absurd h (List.not_lt_nil cs)
  | cons d ds ih =>
      cases cs with
      | nil => cases hlength
      | cons c cs =>
          rcases List.cons_lt_cons_iff.1 h with hlt | ⟨rfl, hlt⟩
          · exact List.Lex.rel hlt
          · exact List.Lex.cons (ih (Nat.succ.inj hlength) hlt)

/-- The first difference is among the first so many characters or among the others. -/
theorem take_lt_take_or_drop_lt_drop {cs ds : List Char} (h : cs < ds) (n : Nat) :
    cs.take n < ds.take n ∨ cs.take n = ds.take n ∧ cs.drop n < ds.drop n := by
  induction n generalizing cs ds with
  | zero => exact Or.inr ⟨rfl, h⟩
  | succ n ih =>
      cases ds with
      | nil => exact absurd h (List.not_lt_nil cs)
      | cons d ds =>
          cases cs with
          | nil => exact Or.inl List.Lex.nil
          | cons c cs =>
              rcases List.cons_lt_cons_iff.1 h with hlt | ⟨rfl, hlt⟩
              · exact Or.inl (List.Lex.rel hlt)
              · rcases ih hlt with htake | ⟨htake, hdrop⟩
                · exact Or.inl (List.Lex.cons htake)
                · exact Or.inr ⟨congrArg (c :: ·) htake, hdrop⟩

end CatalogSearch.Text
