import CatalogSearch.Normalizer.CallNumber
import CatalogSearch.Proofs.Text.ByteOrder
import CatalogSearch.Proofs.Text.Numeral
import CatalogSearch.Text.CodePoint
import CatalogSearch.Value

/-!
The integers of call numbers. Whatever the text, eleven symbols count and each is a digit in base
43, so the integer is below the eleventh power of 43, and so is all that is added up on the way.
That leaves room above it within 64 bits, which is what arithmetic on anchors relies on. The symbols
stand for the digits in ascending order, so integers are ordered as those eleven symbols are. Which
symbols count is told of the text: its letters become capitals, what is no symbol is dropped, and of
the rest the first eleven are left, or spaces in their place.
-/

namespace CatalogSearch.CallNumber

theorem length_padded (cs : List Char) : (padded cs).length = width := by
  rw [padded, List.length_append, List.length_take, List.length_replicate]
  omega

theorem mem_alphabet_of_mem_symbols {c : Char} {cs : List Char} (h : c ∈ symbols cs) :
    c ∈ alphabet := by
  have hkept := (List.mem_filter.1 h).2
  exact List.contains_iff_mem.1 hkept

theorem mem_alphabet_of_mem_padded {c : Char} {cs : List Char} (h : c ∈ padded cs) :
    c ∈ alphabet := by
  rcases List.mem_append.1 h with h | h
  · exact mem_alphabet_of_mem_symbols (List.mem_of_mem_take h)
  · rw [List.eq_of_mem_replicate h]
    decide

theorem alphabet_ascending : alphabet.Pairwise (· < ·) := by
  decide

theorem idxOf_lt_idxOf {c d : Char} (hc : c ∈ alphabet) (hd : d ∈ alphabet) (h : c < d) :
    alphabet.idxOf c < alphabet.idxOf d := by
  have hi : alphabet.idxOf c < alphabet.length := List.idxOf_lt_length_of_mem hc
  have hj : alphabet.idxOf d < alphabet.length := List.idxOf_lt_length_of_mem hd
  rcases lt_trichotomy (alphabet.idxOf c) (alphabet.idxOf d) with hlt | heq | hgt
  · exact hlt
  · exact absurd ((List.idxOf_inj hc).1 heq) h.ne
  · have hdc := List.pairwise_iff_getElem.1 alphabet_ascending _ _ hj hi hgt
    rw [List.getElem_idxOf hj, List.getElem_idxOf hi] at hdc
    exact absurd h hdc.not_gt

theorem numerals_alphabet : Text.Numerals base alphabet.idxOf {c | c ∈ alphabet} where
  digit_lt _ hc := List.idxOf_lt_length_of_mem hc
  strictMono _ hc _ hd h := idxOf_lt_idxOf hc hd h

theorem number_eq_positional (cs : List Char) :
    number cs = Text.positional base alphabet.idxOf cs := rfl

theorem number_lt {cs : List Char} (h : ∀ c ∈ cs, c ∈ alphabet) :
    number cs < base ^ cs.length :=
  numerals_alphabet.positional_lt h

theorem encode_lt (s : String) : encode s < base ^ width := by
  have hlt := number_lt fun c (hc : c ∈ padded s.toList) => mem_alphabet_of_mem_padded hc
  rwa [length_padded] at hlt

/-- The integer of a call number is a value, and not the largest one. -/
theorem encode_lt_longMax (s : String) : (encode s : Int) < longMax := by
  have hroom : ((base ^ width : Nat) : Int) < longMax := by decide
  have hlt := encode_lt s
  omega

/-! ### The symbols that count -/

/-- The capital of an ASCII letter; any other character is left as it is. -/
def capital (c : Char) : Char :=
  if 'a' ≤ c ∧ c ≤ 'z' then Char.ofNat (c.toNat - 32) else c

def signs : List Char := [' ', '#', '$', '+', '.', '/', ':']

/-- Whether a character stands for a digit in base 43, as seven signs, the ten figures and the
capitals of ASCII do. -/
def IsSymbol (c : Char) : Prop :=
  c ∈ signs ∨ ('0' ≤ c ∧ c ≤ '9') ∨ ('A' ≤ c ∧ c ≤ 'Z')

instance : DecidablePred IsSymbol := fun _ => inferInstanceAs (Decidable (_ ∨ _ ∨ _))

/-- The first eleven symbols of a text in capitals, filled up with spaces. -/
def leading (s : String) : String :=
  String.ofList ((((s.toList.map capital).filter IsSymbol).take 11).rightpad 11 ' ')

theorem toUpper_eq_capital (c : Char) : c.toUpper = capital c := by
  by_cases h : 'a' ≤ c ∧ c ≤ 'z'
  · have hascii : ∀ c : Char, c.toNat < 0x80 → c.toUpper = capital c :=
      Text.forall_ascii (by decide)
    have hlast : c.toNat ≤ 'z'.toNat := UInt32.le_iff_toNat_le.1 h.2
    exact hascii c (hlast.trans_lt (by decide))
  · rw [capital, if_neg h]
    exact dif_neg h

theorem IsSymbol.toNat_lt {c : Char} (h : IsSymbol c) : c.toNat < 0x80 := by
  rcases h with hsign | ⟨-, hfigure⟩ | ⟨-, hcapital⟩
  · have hall : signs.all (fun d => d.toNat < 0x80) = true := by decide
    exact of_decide_eq_true (List.all_eq_true.1 hall c hsign)
  · exact (UInt32.le_iff_toNat_le.1 hfigure).trans_lt (by decide)
  · exact (UInt32.le_iff_toNat_le.1 hcapital).trans_lt (by decide)

theorem mem_alphabet_iff (c : Char) : c ∈ alphabet ↔ IsSymbol c := by
  constructor
  · intro h
    have hall : alphabet.all (fun d => IsSymbol d) = true := by decide
    exact of_decide_eq_true (List.all_eq_true.1 hall c h)
  · intro h
    have hascii : ∀ c : Char, c.toNat < 0x80 → IsSymbol c → c ∈ alphabet :=
      Text.forall_ascii (by decide)
    exact hascii c h.toNat_lt h

theorem symbols_eq (cs : List Char) : symbols cs = (cs.map capital).filter IsSymbol := by
  have hcapital : Char.toUpper = capital := funext toUpper_eq_capital
  rw [symbols, hcapital]
  refine List.filter_congr fun c _ => ?_
  rw [Bool.eq_iff_iff, List.contains_iff_mem, mem_alphabet_iff, decide_eq_true_iff]

/-- Filling up what is left of eleven symbols takes as many spaces as all symbols fall short of. -/
theorem toList_leading (s : String) : (leading s).toList = padded s.toList := by
  have hspaces (cs : List Char) : 11 - (cs.take 11).length = 11 - cs.length := by
    rw [List.length_take]
    omega
  rw [leading, String.toList_ofList, List.rightpad, padded, symbols_eq, hspaces]
  rfl

/-! ### The order of integers -/

theorem encode_lt_encode_iff (s t : String) :
    encode s < encode t ↔ padded s.toList < padded t.toList := by
  have hlength := (length_padded s.toList).trans (length_padded t.toList).symm
  exact numerals_alphabet.positional_lt_iff (fun _ => mem_alphabet_of_mem_padded)
    (fun _ => mem_alphabet_of_mem_padded) hlength

theorem encode_eq_encode_iff (s t : String) :
    encode s = encode t ↔ padded s.toList = padded t.toList := by
  have hlength := (length_padded s.toList).trans (length_padded t.toList).symm
  exact numerals_alphabet.positional_eq_iff (fun _ => mem_alphabet_of_mem_padded)
    (fun _ => mem_alphabet_of_mem_padded) hlength

/-- A step of the sum does not go beyond the bound for all eleven of them. -/
theorem number_concat_lt {cs : List Char} {done rest : List Char} {c : Char}
    (h : padded cs = done ++ c :: rest) : number (done ++ [c]) < base ^ width := by
  have hsplit : padded cs = (done ++ [c]) ++ rest := by rw [h, List.append_assoc]; rfl
  have hmem : ∀ d ∈ done ++ [c], d ∈ alphabet := by
    intro d hd
    have hpadded : d ∈ padded cs := by
      rw [hsplit]
      exact List.mem_append_left rest hd
    exact mem_alphabet_of_mem_padded hpadded
  have hlength : (done ++ [c]).length ≤ width := by
    rw [← length_padded cs, hsplit]
    exact (List.prefix_append _ rest).length_le
  exact (number_lt hmem).trans_le (Nat.pow_le_pow_right (by decide) hlength)

/-- **Integers are ordered as the symbols that count.** For any two texts the order of the integers
is that of the bytes of their first eleven symbols, filled up with spaces, and they are equal if
those symbols are. The integer is the number that these symbols form. Each number that is formed on
the way, and its product with the base, is below the eleventh power of 43, as is the integer itself,
and that power has less than 64 bits. -/
theorem encode_orderEmbedding (s t : String) :
    (encode s < encode t ↔ Text.BytesBefore (leading s) (leading t)) ∧
      (encode s = encode t ↔ leading s = leading t) ∧
      encode s = number (leading s).toList ∧
      (∀ done c rest, (leading s).toList = done ++ c :: rest →
        43 * number done ≤ number (done ++ [c]) ∧ number (done ++ [c]) < 43 ^ 11) ∧
      encode s < 43 ^ 11 ∧ 43 ^ 11 < 2 ^ 63 := by
  refine ⟨?_, ?_, ?_, ?_, encode_lt s, by decide⟩
  · rw [Text.bytesBefore_iff, toList_leading, toList_leading, encode_lt_encode_iff]
  · rw [encode_eq_encode_iff, ← toList_leading, ← toList_leading, String.toList_inj]
  · rw [toList_leading]
    rfl
  · intro done c rest h
    rw [toList_leading] at h
    refine ⟨?_, number_concat_lt h⟩
    rw [number_eq_positional (done ++ [c]), Text.positional_concat]
    exact Nat.le_add_right _ _

/-- Small letters count as capitals. Neither an asterisk nor an accented letter is a symbol, nor is
the long s, though its capital is. A long call number is cut off behind eleven symbols, and a short
one filled up. -/
theorem encode_orderEmbedding_shelfmarks :
    (leading "pr 9199.3" = "PR 9199.3  " ∧ encode "pr 9199.3" = 708659706616399907) ∧
      (leading "QA*76é" = "QA76       " ∧ encode "QA*76é" = 721878199168248645) ∧
      (leading "ſa" = "A          " ∧ encode "ſa" = encode "A" ∧ encode "A" = 367395199325832233) ∧
      (leading "PR 9199.3 .A1" = "PR 9199.3 ." ∧
        encode "PR 9199.3 .A1" = encode "PR 9199.3 .B2" ∧
        encode "PR 9199.3" < encode "PR 9199.3 .A1") ∧
      encode "ZZZZZZZZZZZZ" = 43 ^ 11 - 1 := by
  have hnumber (s : String) : encode s = number (leading s).toList :=
    (encode_orderEmbedding s "").2.2.1
  have hlower : leading "pr 9199.3" = "PR 9199.3  " := by decide +kernel
  have hdropped : leading "QA*76é" = "QA76       " := by decide +kernel
  have hletter : leading "A" = "A          " := by decide +kernel
  have hlongS : leading "ſa" = "A          " := by decide +kernel
  have hshort : leading "PR 9199.3" = "PR 9199.3  " := by decide +kernel
  have hcut : leading "PR 9199.3 .A1" = "PR 9199.3 ." := by decide +kernel
  have hcut' : leading "PR 9199.3 .B2" = "PR 9199.3 ." := by decide +kernel
  have hlargest : leading "ZZZZZZZZZZZZ" = "ZZZZZZZZZZZ" := by decide +kernel
  obtain ⟨-, hsame, -⟩ := encode_orderEmbedding "ſa" "A"
  obtain ⟨-, hbeyond, -⟩ := encode_orderEmbedding "PR 9199.3 .A1" "PR 9199.3 .B2"
  obtain ⟨hbefore, -⟩ := encode_orderEmbedding "PR 9199.3" "PR 9199.3 .A1"
  refine ⟨⟨hlower, ?_⟩, ⟨hdropped, ?_⟩, ⟨hlongS, ?_, ?_⟩, ⟨hcut, ?_, ?_⟩, ?_⟩
  · rw [hnumber, hlower]
    decide +kernel
  · rw [hnumber, hdropped]
    decide +kernel
  · rw [hsame, hlongS, hletter]
  · rw [hnumber, hletter]
    decide +kernel
  · rw [hbeyond, hcut, hcut']
  · rw [hbefore, hshort, hcut, Text.bytesBefore_iff]
    decide +kernel
  · rw [hnumber, hlargest]
    decide +kernel

end CatalogSearch.CallNumber
