import CatalogSearch.Facet.Request
import CatalogSearch.Proofs.Text.Digit
import Mathlib.Data.List.TakeWhile
import Mathlib.Order.Interval.Set.Defs

/-!
The texts of facet requests. The pattern takes exactly the texts of a name and a limit, whose digits
may be of any script. Read as a count, such a limit is refused for its digits or not at all, since
it has no sign and is never too large. So the reader accepts exactly the texts of a small grammar,
and the names that it accepts are made of letters and points, so none of them holds the mark of
another kind of aggregation.
-/

namespace CatalogSearch.FacetRequest

/-- The texts of requests: a name of letters and points, and after a colon, if a size is wanted, one
to ten digits. -/
inductive Written : String → FacetRequest → Prop where
  | unbounded (name : String) (hne : name ≠ "") (hname : ∀ c ∈ name.toList, isNameChar c = true) :
      Written name ⟨name, none⟩
  | sized (name : String) (digits : List Char) (hne : name ≠ "")
      (hname : ∀ c ∈ name.toList, isNameChar c = true) (hdigits : digits ≠ [])
      (hlength : digits.length ≤ 10) (hall : ∀ c ∈ digits, c.isDigit = true) :
      Written (name ++ ":" ++ String.ofList digits) ⟨name, some (Text.natOfDigits digits)⟩

/-! ### The pattern -/

namespace Parts

/-- The text that is taken apart. -/
def text (p : Parts) : String :=
  match p.limit with
  | none => String.ofList p.name
  | some digits => String.ofList p.name ++ ":" ++ String.ofList digits

/-- What the pattern of requests asks of the parts of a text. -/
structure Fits (p : Parts) : Prop where
  name_ne_nil : p.name ≠ []
  isNameChar : ∀ c ∈ p.name, FacetRequest.isNameChar c = true
  limit_ne_nil : ∀ digits ∈ p.limit, digits ≠ []
  length_limit : ∀ digits ∈ p.limit, digits.length ≤ 10
  isDigit : ∀ digits ∈ p.limit, ∀ c ∈ digits, Text.isDigit c = true

/-- The limit, if there is one, is written in ASCII digits. -/
def IsAscii (p : Parts) : Prop := ∀ digits ∈ p.limit, ∀ c ∈ digits, c.isDigit = true

/-- The request that parts write: their name, and the number of their limit if they have one. -/
def request (p : Parts) : FacetRequest := ⟨String.ofList p.name, p.limit.map Text.natOfDigits⟩

end Parts

theorem limit?_eq_some_iff {cs : List Char} {limit : Option (List Char)} :
    limit? cs = some limit ↔
      (cs = [] ∧ limit = none) ∨ ∃ digits, cs = ':' :: digits ∧ limit = some digits ∧
        digits ≠ [] ∧ digits.length ≤ 10 ∧ ∀ c ∈ digits, Text.isDigit c = true := by
  unfold limit?
  split
  · constructor
    · intro h
      exact Or.inl ⟨rfl, (Option.some.inj h).symm⟩
    · rintro (⟨-, rfl⟩ | ⟨digits, h, -⟩)
      · rfl
      · cases h
  · next digits =>
      by_cases h : digits ≠ [] ∧ digits.length ≤ 10 ∧ ∀ c ∈ digits, Text.isDigit c = true
      · rw [if_pos (by simpa [and_assoc] using h), Option.some.injEq]
        constructor
        · rintro rfl
          exact Or.inr ⟨digits, rfl, rfl, h⟩
        · rintro (⟨hnil, -⟩ | ⟨_, ⟨⟩, rfl, -⟩)
          · cases hnil
          · rfl
      · rw [if_neg (by simpa [and_assoc] using h)]
        refine iff_of_false (by simp) ?_
        rintro (⟨hnil, -⟩ | ⟨_, ⟨⟩, -, hdigits⟩)
        · cases hnil
        · exact h hdigits
  · next hnil hcolon =>
      refine iff_of_false (by simp) ?_
      rintro (⟨rfl, -⟩ | ⟨digits, rfl, -⟩)
      · exact hnil rfl
      · exact hcolon digits rfl

theorem parts?_eq_some_iff_spans {s : String} {p : Parts} :
    parts? s = some p ↔ s.toList.takeWhile isNameChar = p.name ∧ p.name ≠ [] ∧
      limit? (s.toList.dropWhile isNameChar) = some p.limit := by
  unfold parts?
  by_cases hempty : s.toList.takeWhile isNameChar = []
  · rw [if_pos (by simpa using hempty)]
    refine iff_of_false (by simp) ?_
    rintro ⟨hname, hne, -⟩
    exact hne (hname.symm.trans hempty)
  · rw [if_neg (by simpa using hempty), Option.map_eq_some_iff]
    constructor
    · rintro ⟨limit, hlimit, rfl⟩
      exact ⟨rfl, hempty, hlimit⟩
    · rintro ⟨hname, -, hlimit⟩
      exact ⟨p.limit, hlimit, by rw [hname]⟩

/-- The pattern takes exactly the texts of parts that fit it, and takes them apart. -/
theorem parts?_eq_some_iff {s : String} {p : Parts} :
    parts? s = some p ↔ p.Fits ∧ s = p.text := by
  obtain ⟨name, limit⟩ := p
  rw [parts?_eq_some_iff_spans]
  dsimp only
  constructor
  · rintro ⟨hspan, hne, hlimit⟩
    have hsplit := List.takeWhile_append_dropWhile (p := isNameChar) (l := s.toList)
    have hname : ∀ c ∈ s.toList.takeWhile isNameChar, isNameChar c = true :=
      fun c hc => List.mem_takeWhile_imp hc
    rw [hspan] at hsplit hname
    rcases limit?_eq_some_iff.1 hlimit with
      ⟨hrest, rfl⟩ | ⟨digits, hrest, rfl, hdigits, hlength, hall⟩
    · refine ⟨⟨hne, hname, by simp, by simp, by simp⟩, ?_⟩
      rw [hrest, List.append_nil] at hsplit
      rw [Parts.text, hsplit, String.ofList_toList]
    · refine ⟨⟨hne, hname, by simpa, by simpa, by simpa⟩, ?_⟩
      rw [hrest] at hsplit
      rw [Parts.text, ← String.toList_inj, ← hsplit]
      simp
  · rintro ⟨hfits, rfl⟩
    have hname := hfits.isNameChar
    cases limit with
    | none =>
        rw [Parts.text, String.toList_ofList, List.takeWhile_eq_self_iff.2 hname,
          List.dropWhile_eq_nil_iff.2 hname]
        exact ⟨rfl, hfits.name_ne_nil, rfl⟩
    | some digits =>
        have htext : (Parts.text ⟨name, some digits⟩).toList = name ++ ':' :: digits := by
          simp [Parts.text]
        -- The characters of the name are a longest run, since the colon is none of them.
        rw [htext, List.takeWhile_append_of_pos hname, List.takeWhile_cons_of_neg (by decide),
          List.append_nil, List.dropWhile_append_of_pos hname,
          List.dropWhile_cons_of_neg (by decide), limit?_eq_some_iff]
        exact ⟨rfl, hfits.name_ne_nil, Or.inr ⟨digits, rfl, rfl, hfits.limit_ne_nil digits rfl,
          hfits.length_limit digits rfl, hfits.isDigit digits rfl⟩⟩

/-! ### The count -/

/-- Of what the pattern takes, a limit with any other digit than an ASCII one is no count, and
nothing else is amiss. -/
theorem Parts.Fits.request?_eq_some_iff {p : Parts} (h : p.Fits) {r : FacetRequest} :
    p.request? = some r ↔ p.IsAscii ∧ r = p.request := by
  obtain ⟨name, limit⟩ := p
  cases limit with
  | none =>
      have hascii : Parts.IsAscii ⟨name, none⟩ := by
        rintro digits ⟨⟩
      rw [and_iff_right hascii, Parts.request?, Option.some.injEq]
      exact eq_comm
  | some digits =>
      have hlength : digits.length ≤ 19 := Nat.le_trans (h.length_limit digits rfl) (by decide)
      have hcount : Text.count? digits = Text.nat? digits :=
        Text.count?_eq_nat? (h.isDigit digits rfl) hlength
      have hne : digits ≠ [] := h.limit_ne_nil digits rfl
      simp only [Parts.request?, hcount, Option.map_eq_some_iff, Text.nat?_eq_some_iff,
        Parts.IsAscii, Parts.request, Option.map_some, Option.mem_some_iff, forall_eq']
      constructor
      · rintro ⟨n, ⟨-, hall, rfl⟩, rfl⟩
        exact ⟨hall, rfl⟩
      · rintro ⟨hall, rfl⟩
        exact ⟨_, ⟨hne, hall, rfl⟩, rfl⟩

/-! ### The reader -/

theorem parse_eq_ok_iff_parts {s : String} {r : FacetRequest} :
    parse s = .ok r ↔ ∃ p : Parts, p.Fits ∧ p.IsAscii ∧ s = p.text ∧ r = p.request := by
  have hbind : parse s = .ok r ↔ (parts? s).bind Parts.request? = some r := by
    unfold parse
    cases (parts? s).bind Parts.request? with
    | none => simp
    | some r => simp
  rw [hbind, Option.bind_eq_some_iff]
  constructor
  · rintro ⟨p, hp, hr⟩
    obtain ⟨hfits, rfl⟩ := parts?_eq_some_iff.1 hp
    obtain ⟨hascii, rfl⟩ := hfits.request?_eq_some_iff.1 hr
    exact ⟨p, hfits, hascii, rfl, rfl⟩
  · rintro ⟨p, hfits, hascii, rfl, rfl⟩
    exact ⟨p, parts?_eq_some_iff.2 ⟨hfits, rfl⟩, hfits.request?_eq_some_iff.2 ⟨hascii, rfl⟩⟩

theorem written_iff_parts {s : String} {r : FacetRequest} :
    Written s r ↔ ∃ p : Parts, p.Fits ∧ p.IsAscii ∧ s = p.text ∧ r = p.request := by
  constructor
  · intro h
    cases h with
    | unbounded _ hne hname =>
        refine ⟨⟨s.toList, none⟩, ⟨by simpa using hne, hname, by simp, by simp, by simp⟩,
          by rintro digits ⟨⟩, ?_, ?_⟩
        · rw [Parts.text, String.ofList_toList]
        · rw [Parts.request, String.ofList_toList, Option.map_none]
    | sized name digits hne hname hdigits hlength hall =>
        have hscript : ∀ c ∈ digits, Text.isDigit c = true :=
          fun c hc => Text.isDigit_of_ascii (hall c hc)
        refine ⟨⟨name.toList, some digits⟩, ⟨by simpa using hne, hname, by simpa, by simpa,
          by simpa⟩, by rintro _ ⟨⟩; exact hall, ?_, ?_⟩
        · rw [Parts.text, String.ofList_toList]
        · rw [Parts.request, String.ofList_toList, Option.map_some]
  · rintro ⟨⟨name, limit⟩, hfits, hascii, rfl, rfl⟩
    have hne : String.ofList name ≠ "" := by simpa using hfits.name_ne_nil
    have hname : ∀ c ∈ (String.ofList name).toList, isNameChar c = true := by
      simpa using hfits.isNameChar
    cases limit with
    | none => exact .unbounded _ hne hname
    | some digits =>
        exact .sized _ digits hne hname (hfits.limit_ne_nil digits rfl)
          (hfits.length_limit digits rfl) (hascii digits rfl)

/-- The reader accepts exactly the texts of requests. -/
theorem parse_eq_ok_iff {s : String} {r : FacetRequest} : parse s = .ok r ↔ Written s r := by
  rw [parse_eq_ok_iff_parts, written_iff_parts]

theorem parse_eq_error_iff {s : String} {e : CompileError} :
    parse s = .error e ↔ e = .invalidFacetFormat s ∧ ∀ r, ¬ Written s r := by
  simp only [← parse_eq_ok_iff]
  unfold parse
  cases (parts? s).bind Parts.request? with
  | none => simp [eq_comm]
  | some r => simp

theorem Written.isNameChar {s : String} {r : FacetRequest} (h : Written s r) :
    ∀ c ∈ r.name.toList, FacetRequest.isNameChar c = true := by
  cases h with
  | unbounded name _ hname => exact hname
  | sized name digits _ hname => exact hname

/-! ### The grammar by characters -/

/-- Texts of the letters from A to Z, large or small, and points. -/
def IsName (s : String) : Prop :=
  s ≠ "" ∧ ∀ c ∈ s.toList, c ∈ Set.Icc 'A' 'Z' ∪ Set.Icc 'a' 'z' ∪ {'.'}

/-- Texts of one to ten of the digits from 0 to 9. -/
def IsLimit (s : String) : Prop :=
  s ≠ "" ∧ s.length ≤ 10 ∧ ∀ c ∈ s.toList, c ∈ Set.Icc '0' '9'

/-- The number that a text of digits writes, each of which counts ten times as much as the next. -/
def decimalValue (s : String) : Nat :=
  Nat.ofDigits 10 (s.toList.reverse.map fun c => c.toNat - '0'.toNat)

theorem isNameChar_iff {c : Char} :
    isNameChar c = true ↔ c ∈ Set.Icc 'A' 'Z' ∪ Set.Icc 'a' 'z' ∪ {'.'} := by
  have hupper : c.isUpper = true ↔ 'A' ≤ c ∧ c ≤ 'Z' := decide_eq_true_iff
  have hlower : c.isLower = true ↔ 'a' ≤ c ∧ c ≤ 'z' := by
    have hdecide : c.isLower = (decide ('a' ≤ c) && decide (c ≤ 'z')) := rfl
    rw [hdecide, Bool.and_eq_true, decide_eq_true_iff, decide_eq_true_iff]
  have halpha : c.isAlpha = (c.isUpper || c.isLower) := rfl
  rw [isNameChar, halpha, Bool.or_eq_true, Bool.or_eq_true, hupper, hlower, decide_eq_true_iff]
  rfl

theorem isName_iff {s : String} : IsName s ↔ s ≠ "" ∧ ∀ c ∈ s.toList, isNameChar c = true := by
  simp only [IsName, isNameChar_iff]

theorem isLimit_iff {s : String} :
    IsLimit s ↔ s.toList ≠ [] ∧ s.toList.length ≤ 10 ∧ ∀ c ∈ s.toList, c.isDigit = true := by
  have hdigit (c : Char) : c ∈ Set.Icc '0' '9' ↔ c.isDigit = true := Text.isAsciiDigit_iff.symm
  simp only [IsLimit, hdigit, ne_eq, String.toList_eq_nil_iff, String.length_toList]

instance : DecidablePred IsName := fun s =>
  decidable_of_iff (s ≠ "" ∧ s.toList.all isNameChar = true) (by rw [List.all_eq_true, isName_iff])

instance : DecidablePred IsLimit := fun s =>
  decidable_of_iff (s.toList ≠ [] ∧ s.toList.length ≤ 10 ∧ s.toList.all Char.isDigit = true)
    (by rw [List.all_eq_true, isLimit_iff])

theorem written_iff {s : String} {r : FacetRequest} :
    Written s r ↔ (IsName s ∧ r = ⟨s, none⟩) ∨
      ∃ name digits, s = name ++ ":" ++ digits ∧ IsName name ∧ IsLimit digits ∧
        r = ⟨name, some (decimalValue digits)⟩ := by
  have hvalue (digits : List Char) :
      Text.natOfDigits digits = decimalValue (String.ofList digits) := by
    rw [Text.natOfDigits_eq_ofDigits, decimalValue, String.toList_ofList]
    rfl
  constructor
  · intro h
    cases h with
    | unbounded _ hne hname => exact Or.inl ⟨isName_iff.2 ⟨hne, hname⟩, rfl⟩
    | sized name digits hne hname hdigits hlength hall =>
        have hlimit : IsLimit (String.ofList digits) :=
          isLimit_iff.2 (by simpa using ⟨hdigits, hlength, hall⟩)
        exact Or.inr ⟨name, String.ofList digits, rfl, isName_iff.2 ⟨hne, hname⟩, hlimit,
          by rw [hvalue]⟩
  · rintro (⟨hname, rfl⟩ | ⟨name, digits, rfl, hname, hlimit, rfl⟩)
    · obtain ⟨hne, hname⟩ := isName_iff.1 hname
      exact .unbounded s hne hname
    · obtain ⟨hne, hname⟩ := isName_iff.1 hname
      obtain ⟨hdigits, hlength, hall⟩ := isLimit_iff.1 hlimit
      rw [← String.ofList_toList (s := digits), ← hvalue]
      exact .sized name digits.toList hne hname hdigits hlength hall

theorem Written.size_lt {s : String} {r : FacetRequest} (h : Written s r) :
    ∀ n ∈ r.size, n < 10 ^ 10 := by
  cases h with
  | unbounded => simp
  | sized name digits _ _ _ hlength hall =>
      intro n hn
      obtain rfl : Text.natOfDigits digits = n := Option.some.inj hn
      exact Nat.lt_of_lt_of_le (Text.natOfDigits_lt hall)
        (Nat.pow_le_pow_right (by decide) hlength)

/-- **The reader accepts exactly the grammar of requests**: a name, or a name and a limit with a
colon between them. What is before the colon is the name that is asked for, which has no underscore.
The digits after it write the number of values that are wanted in decimal, which is never too large.
Every other text is refused, and the error holds it. -/
theorem parse_grammar (s : String) :
    (∀ r, parse s = .ok r ↔ (IsName s ∧ r = ⟨s, none⟩) ∨
      ∃ name digits, s = name ++ ":" ++ digits ∧ IsName name ∧ IsLimit digits ∧
        r = ⟨name, some (decimalValue digits)⟩) ∧
    (∀ e, parse s = .error e ↔ e = .invalidFacetFormat s ∧ ¬ IsName s ∧
      ∀ name digits, s = name ++ ":" ++ digits → IsName name → ¬ IsLimit digits) ∧
    ∀ r, parse s = .ok r → '_' ∉ r.name.toList ∧ ∀ n ∈ r.size, n < 10 ^ 10 := by
  refine ⟨fun r => parse_eq_ok_iff.trans written_iff, fun e => ?_, fun r hr => ?_⟩
  · rw [parse_eq_error_iff]
    refine and_congr_right fun _ => ?_
    constructor
    · intro hnone
      refine ⟨fun hname => hnone _ (written_iff.2 (Or.inl ⟨hname, rfl⟩)), ?_⟩
      intro name digits hs hname hlimit
      exact hnone _ (written_iff.2 (Or.inr ⟨name, digits, hs, hname, hlimit, rfl⟩))
    · rintro ⟨hs, hparts⟩ r hwritten
      rcases written_iff.1 hwritten with ⟨hname, -⟩ | ⟨name, digits, heq, hname, hlimit, -⟩
      · exact hs hname
      · exact hparts name digits heq hname hlimit
  · have hwritten := parse_eq_ok_iff.1 hr
    refine ⟨fun hunderscore => ?_, hwritten.size_lt⟩
    exact absurd (hwritten.isNameChar '_' hunderscore) (by decide)

/-- The largest size, and one in a full-width digit, which the pattern takes and no count has. -/
theorem parse_grammar_genre :
    (parse "genre:9999999999" = .ok ⟨"genre", some 9999999999⟩ ∧ '_' ∉ "genre".toList) ∧
      parts? "genre:\uFF15" = some ⟨['g', 'e', 'n', 'r', 'e'], some ['\uFF15']⟩ ∧
      parse "genre:\uFF15" = .error (.invalidFacetFormat "genre:\uFF15") ∧
      ¬ IsLimit "\uFF15" := by
  obtain ⟨haccepts, -, hname⟩ := parse_grammar "genre:9999999999"
  have hok : parse "genre:9999999999" = .ok ⟨"genre", some 9999999999⟩ :=
    (haccepts _).2 (Or.inr ⟨"genre", "9999999999", by decide, by decide, by decide, by decide⟩)
  have herror : parse "genre:\uFF15" = .error (.invalidFacetFormat "genre:\uFF15") := by decide
  obtain ⟨-, -, hrefused⟩ := ((parse_grammar "genre:\uFF15").2.1 _).1 herror
  exact ⟨⟨hok, (hname _ hok).1⟩, by decide, herror,
    hrefused "genre" "\uFF15" (by decide) (by decide)⟩

end CatalogSearch.FacetRequest
