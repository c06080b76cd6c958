import CatalogSearch.Proofs.Json.Depth

/-!
Compact text is read as the value it was written for. Each character of a text survives escaping,
whatever follows it, so a quoted text is read up to its closing quote; and the compact text of a
value is cut into the tokens of the value.
-/

namespace CatalogSearch.Json

/-! ### Escapes -/

theorem bind_cons_eq_map (c : Char) (scanned : Option (List Char × List Char)) :
    (scanned >>= fun (text, rest) => return (c :: text, rest)) =
      scanned.map fun read => (c :: read.1, read.2) := by
  cases scanned <;> rfl

/-- Four digits stand for one character, also where another escape follows. -/
theorem scanString_unicode {a b c d : Char} {unit : Nat} (h : hexUnit? a b c d = some unit)
    (hhigh : isHighSurrogate unit = false) (hlow : isLowSurrogate unit = false)
    (tail : List Char) :
    scanString ('\\' :: 'u' :: a :: b :: c :: d :: tail) =
      (scanString tail).map fun read => (Char.ofNat unit :: read.1, read.2) := by
  by_cases hpair : ∃ e f g h rest, tail = '\\' :: 'u' :: e :: f :: g :: h :: rest
  · obtain ⟨e, f, g, h', rest, rfl⟩ := hpair
    rw [scanString, h, ← bind_cons_eq_map]
    simp [hhigh, hlow]
  · rw [scanString.eq_3 a b c d tail fun e f g h rest heq => hpair ⟨e, f, g, h, rest, heq⟩, h,
      ← bind_cons_eq_map]
    simp [hhigh, hlow]

theorem scanString_simple {c e : Char} (h : simpleEscape? e = some c) (tail : List Char) :
    scanString ('\\' :: e :: tail) =
      (scanString tail).map fun read => (c :: read.1, read.2) := by
  have hu : e ≠ 'u' := by
    rintro rfl
    cases h
  rw [scanString.eq_4, h, ← bind_cons_eq_map]
  · rfl
  · exact fun _ _ _ _ _ _ _ _ _ he => absurd he hu
  · exact fun _ _ _ _ _ he => absurd he hu

theorem scanString_plain {c : Char} (hquote : c ≠ '"') (hslash : c ≠ '\\') (hc : ¬ c.toNat < 0x20)
    (tail : List Char) :
    scanString (c :: tail) = (scanString tail).map fun read => (c :: read.1, read.2) := by
  rw [scanString.eq_5, if_neg hc, ← bind_cons_eq_map]
  · exact hquote
  · exact fun _ _ _ _ _ _ _ _ _ he => absurd he hslash
  · exact fun _ _ _ _ _ he => absurd he hslash
  · exact fun _ _ he => absurd he hslash

theorem hexUnit?_control : ∀ n < 0x20,
    hexUnit? '0' '0' (Nat.digitChar (n / 16)) (Nat.digitChar (n % 16)) = some n := by
  decide

/-- A character is read back from its escape, or from itself. -/
theorem scanString_escapeChar (c : Char) (tail : List Char) :
    scanString (escapeChar c ++ tail) =
      (scanString tail).map fun read => (c :: read.1, read.2) := by
  fun_cases escapeChar c
  case case8 hc _ _ _ _ _ _ _ =>
    have hhigh : isHighSurrogate c.toNat = false := by
      simp only [isHighSurrogate, Bool.and_eq_false_iff, decide_eq_false_iff_not]
      omega
    have hlow : isLowSurrogate c.toNat = false := by
      simp only [isLowSurrogate, Bool.and_eq_false_iff, decide_eq_false_iff_not]
      omega
    have h := scanString_unicode (hexUnit?_control c.toNat hc) hhigh hlow tail
    rw [Char.ofNat_toNat] at h
    rwa [if_pos hc]
  case case9 hc hquote hslash _ _ _ _ _ =>
    rw [if_neg hc]
    exact scanString_plain hquote hslash hc tail
  all_goals exact scanString_simple rfl tail

/-- A text in quotes is read up to the closing quote, whatever follows. -/
theorem scanString_flatMap_escapeChar (text rest : List Char) :
    scanString (text.flatMap escapeChar ++ '"' :: rest) = some (text, rest) := by
  induction text with
  | nil => rw [List.flatMap_nil, List.nil_append, scanString]
  | cons c text ih =>
      rw [List.flatMap_cons, List.append_assoc, scanString_escapeChar, ih, Option.map_some]

/-! ### Tokens -/

theorem lex_punctuation {c : Char} {token : Token} (h : punctuation? c = some token)
    (rest : List Char) : lex (c :: rest) = (lex rest).map (token :: ·) := by
  have hspace : isSpace c = false := by
    rw [Bool.eq_false_iff]
    intro hc
    simp only [isSpace, Bool.or_eq_true, decide_eq_true_eq] at hc
    obtain ((rfl | rfl) | rfl) | rfl := hc <;> cases h
  rw [lex, hspace, h]
  rfl

theorem lex_quotation {cs text rest : List Char} (h : scanString cs = some (text, rest)) :
    lex ('"' :: cs) = (lex rest).map (.scalar (.string (String.ofList text)) :: ·) := by
  have hspace : isSpace '"' = false := by decide
  have hpunctuation : punctuation? '"' = none := by decide
  rw [lex, hspace, hpunctuation]
  simp only [if_true, Bool.false_eq_true, if_false]
  split
  case h_1 hnone =>
    rw [h] at hnone
    cases hnone
  case h_2 hsome =>
    rw [h] at hsome
    cases hsome
    rfl

theorem lex_quoted (s : String) (rest : List Char) :
    lex (quoted s ++ rest) = (lex rest).map (.scalar (.string s) :: ·) := by
  have htext : quoted s ++ rest = '"' :: (s.toList.flatMap escapeChar ++ '"' :: rest) := by
    simp [quoted]
  rw [htext, lex_quotation (scanString_flatMap_escapeChar s.toList rest), String.ofList_toList]

section Items

variable {items : List Json} {members : List (String × Json)}

theorem lex_compactItems
    (h : ∀ item ∈ items, ∀ rest, lex (compact item ++ rest) = (lex rest).map (tokens item ++ ·))
    (rest : List Char) :
    lex (compactItems items ++ rest) = (lex rest).map (itemTokens items ++ ·) := by
  induction items with
  | nil => simp [compactItems, itemTokens]
  | cons item items ih =>
      obtain ⟨hitem, hitems⟩ := List.forall_mem_cons.1 h
      cases items with
      | nil => exact hitem rest
      | cons next items =>
          have htext : compactItems (item :: next :: items) ++ rest =
              compact item ++ ',' :: (compactItems (next :: items) ++ rest) := by
            simp [compactItems]
          rw [htext, hitem, lex_punctuation rfl, ih hitems, Option.map_map, Option.map_map]
          simp [itemTokens, Function.comp_def]

theorem lex_compactMembers
    (h : ∀ member ∈ members, ∀ rest,
      lex (compact member.2 ++ rest) = (lex rest).map (tokens member.2 ++ ·))
    (rest : List Char) :
    lex (compactMembers members ++ rest) = (lex rest).map (memberTokens members ++ ·) := by
  induction members with
  | nil => simp [compactMembers, memberTokens]
  | cons member members ih =>
      obtain ⟨key, value⟩ := member
      obtain ⟨hvalue, hmembers⟩ := List.forall_mem_cons.1 h
      cases members with
      | nil =>
          have htext : compactMembers [(key, value)] ++ rest =
              quoted key ++ ':' :: (compact value ++ rest) := by
            simp [compactMembers]
          rw [htext, lex_quoted, lex_punctuation rfl, hvalue, Option.map_map, Option.map_map]
          simp [memberTokens, Function.comp_def]
      | cons next members =>
          have htext : compactMembers ((key, value) :: next :: members) ++ rest =
              quoted key ++ ':' :: (compact value ++ ',' ::
                (compactMembers (next :: members) ++ rest)) := by
            simp [compactMembers]
          rw [htext, lex_quoted, lex_punctuation rfl, hvalue, lex_punctuation rfl, ih hmembers]
          simp [memberTokens, Function.comp_def]

end Items

/-- The compact text of a value is cut into its tokens, whatever follows. -/
theorem lex_compact {v : Json} (h : Textual v) (rest : List Char) :
    lex (compact v ++ rest) = (lex rest).map (tokens v ++ ·) := by
  induction h generalizing rest with
  | string s => exact lex_quoted s rest
  | @array items _ ih =>
      have htext : compact (.array items) ++ rest = '[' :: (compactItems items ++ ']' :: rest) := by
        simp [compact]
      rw [htext, lex_punctuation rfl, lex_compactItems ih, lex_punctuation rfl]
      simp [tokens, Function.comp_def]
  | @object members _ ih =>
      have htext : compact (.object members) ++ rest =
          '\x7b' :: (compactMembers members ++ '\x7d' :: rest) := by
        simp [compact]
      rw [htext, lex_punctuation rfl, lex_compactMembers ih, lex_punctuation rfl]
      simp [tokens, Function.comp_def]

/-- Compact text is read as the value it was written for, if that is not nested too deeply. -/
theorem parseWithin?_render {v : Json} (h : Textual v) (limit : Nat) :
    parseWithin? limit (render v) = if depth v ≤ limit then some v else none := by
  have hlex : lex (compact v) = some (tokens v) := by
    have happend := lex_compact h []
    rw [List.append_nil, lex] at happend
    simpa using happend
  rw [parseWithin?, render, String.toList_ofList, hlex]
  exact ofTokens?_tokens h limit

end CatalogSearch.Json
