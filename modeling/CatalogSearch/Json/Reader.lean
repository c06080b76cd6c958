import CatalogSearch.Json.Number

/-!
Reading JSON text. The text is cut into tokens, and the tokens drive a machine whose stack holds
the arrays and objects that are still open, so that nesting is bounded by the height of the stack.
The grammar is the strict one: no comments, no trailing commas, nothing but white space around the
value, and `\u` escapes that form whole characters.
-/

namespace CatalogSearch.Json

/-- A lexeme of JSON text. -/
inductive Token where
  | openBracket
  | closeBracket
  | openBrace
  | closeBrace
  | comma
  | colon
  | scalar (v : Json)

def isSpace (c : Char) : Bool := c = ' ' || c = '\n' || c = '\t' || c = '\r'

def punctuation? : Char → Option Token
  | '[' => some .openBracket
  | ']' => some .closeBracket
  | '\x7b' => some .openBrace
  | '\x7d' => some .closeBrace
  | ',' => some .comma
  | ':' => some .colon
  | _ => none

def hexValue? (c : Char) : Option Nat :=
  if c.isDigit then some (c.toNat - 48)
  else if 'a' ≤ c ∧ c ≤ 'f' then some (c.toNat - 87)
  else if 'A' ≤ c ∧ c ≤ 'F' then some (c.toNat - 55)
  else none

def hexUnit? (a b c d : Char) : Option Nat := do
  return ((← hexValue? a) * 16 + (← hexValue? b)) * 256 + (← hexValue? c) * 16 + (← hexValue? d)

/-- The character that a letter after a backslash stands for. -/
def simpleEscape? : Char → Option Char
  | '"' => some '"'
  | '\\' => some '\\'
  | '/' => some '/'
  | 'b' => some '\x08'
  | 'f' => some '\x0c'
  | 'n' => some '\n'
  | 'r' => some '\r'
  | 't' => some '\t'
  | _ => none

def isHighSurrogate (u : Nat) : Bool := 0xD800 ≤ u && u ≤ 0xDBFF

def isLowSurrogate (u : Nat) : Bool := 0xDC00 ≤ u && u ≤ 0xDFFF

/-- Reads the inside of a string up to its closing quote; answers the text and what follows. -/
def scanString : List Char → Option (List Char × List Char)
  | '"' :: rest => some ([], rest)
  | '\\' :: 'u' :: a :: b :: c :: d :: '\\' :: 'u' :: e :: f :: g :: h :: rest => do
    let unit ← hexUnit? a b c d
    if isHighSurrogate unit then
      let low ← hexUnit? e f g h
      if isLowSurrogate low then
        let (text, rest) ← scanString rest
        return (Char.ofNat (0x10000 + (unit - 0xD800) * 0x400 + (low - 0xDC00)) :: text, rest)
      else none
    else if isLowSurrogate unit then none
    else
      let (text, rest) ← scanString ('\\' :: 'u' :: e :: f :: g :: h :: rest)
      return (Char.ofNat unit :: text, rest)
  | '\\' :: 'u' :: a :: b :: c :: d :: rest => do
    let unit ← hexUnit? a b c d
    if isHighSurrogate unit || isLowSurrogate unit then none
    else
      let (text, rest) ← scanString rest
      return (Char.ofNat unit :: text, rest)
  | '\\' :: c :: rest => do
    let escaped ← simpleEscape? c
    let (text, rest) ← scanString rest
    return (escaped :: text, rest)
  | c :: rest =>
    if c.toNat < 0x20 then none
    else do
      let (text, rest) ← scanString rest
      return (c :: text, rest)
  | [] => none

def word? : List Char → Option Json
  | ['n', 'u', 'l', 'l'] => some .null
  | ['t', 'r', 'u', 'e'] => some (.bool true)
  | ['f', 'a', 'l', 's', 'e'] => some (.bool false)
  | _ => none

theorem length_scanString {cs text rest : List Char} (h : scanString cs = some (text, rest)) :
    rest.length < cs.length := by
  fun_induction scanString cs generalizing text rest with
  | case1 => simp_all
  | case2 a b c d e f g h rest' ih₁ ih₂ =>
    simp only [bind, Option.bind_eq_some_iff] at h
    obtain ⟨unit, -, h⟩ := h
    split at h
    · obtain ⟨low, -, h⟩ := Option.bind_eq_some_iff.1 h
      split at h
      · obtain ⟨⟨t, r⟩, hr, h⟩ := Option.bind_eq_some_iff.1 h
        have := ih₁ hr
        simp_all
        omega
      · cases h
    · split at h
      · cases h
      · obtain ⟨⟨t, r⟩, hr, h⟩ := Option.bind_eq_some_iff.1 h
        have := ih₂ hr
        simp_all
        omega
  | case3 a b c d rest' hne ih =>
    simp only [bind, Option.bind_eq_some_iff] at h
    obtain ⟨unit, -, h⟩ := h
    split at h
    · cases h
    · obtain ⟨⟨t, r⟩, hr, h⟩ := Option.bind_eq_some_iff.1 h
      have := ih hr
      simp_all
      omega
  | case4 c rest' h₁ h₂ ih =>
    simp only [bind, Option.bind_eq_some_iff] at h
    obtain ⟨escaped, -, ⟨t, r⟩, hr, h⟩ := h
    have := ih hr
    simp_all
    omega
  | case5 => cases h
  | case6 c rest' _ _ _ _ _ ih =>
    simp only [bind, Option.bind_eq_some_iff] at h
    obtain ⟨⟨t, r⟩, hr, h⟩ := h
    have := ih hr
    simp_all
    omega
  | case7 => cases h

def lex (cs : List Char) : Option (List Token) :=
  match cs with
  | [] => some []
  | c :: rest =>
    if isSpace c then lex rest
    else match punctuation? c with
      | some token => (lex rest).map (token :: ·)
      | none =>
        if c = '"' then
          match _h : scanString rest with
          | none => none
          | some (text, after) => (lex after).map (.scalar (.string (String.ofList text)) :: ·)
        else if c.isAlpha then do
          let v ← word? (c :: rest.takeWhile Char.isAlpha)
          let tokens ← lex (rest.dropWhile Char.isAlpha)
          return .scalar v :: tokens
        else do
          let v ← number? (c :: rest.takeWhile isNumberChar)
          let tokens ← lex (rest.dropWhile isNumberChar)
          return .scalar v :: tokens
termination_by cs.length
decreasing_by
  · simp
  · simp
  · have := length_scanString _h
    simp
    omega
  · have := (List.dropWhile_sublist (p := Char.isAlpha) (l := rest)).length_le
    simp
    omega
  · have := (List.dropWhile_sublist (p := isNumberChar) (l := rest)).length_le
    simp
    omega

/-- An array or object that is still open: what it holds so far, last item first, and for an
object the key whose value is being read. -/
inductive Frame where
  | items (done : List Json)
  | members (done : List (String × Json)) (key : String)

/-- What the reader has seen: the open arrays and objects around a place, innermost first. -/
inductive State where
  /-- A value has to follow. -/
  | value (stack : List Frame)
  /-- An array was opened: its first item or its end has to follow. -/
  | arrayStart (stack : List Frame)
  /-- A key has to follow, or the end of the object where it may stand. -/
  | key (stack : List Frame) (done : List (String × Json)) (mayClose : Bool)
  /-- A colon has to follow a key. -/
  | colon (stack : List Frame) (done : List (String × Json)) (key : String)
  /-- A value is complete. -/
  | complete (stack : List Frame) (v : Json)

/-- Takes the first token of a value, if fewer than `limit` arrays and objects are open. -/
def State.openValue (limit : Nat) (stack : List Frame) : Token → Option State
  | .scalar v => some (.complete stack v)
  | .openBracket => if stack.length < limit then some (.arrayStart stack) else none
  | .openBrace => if stack.length < limit then some (.key stack [] true) else none
  | _ => none

def State.step (limit : Nat) : State → Token → Option State
  | .value stack, token => openValue limit stack token
  | .arrayStart stack, .closeBracket => some (.complete stack (.array []))
  | .arrayStart stack, token => openValue limit (.items [] :: stack) token
  | .key stack done _, .scalar (.string name) => some (.colon stack done name)
  | .key stack done true, .closeBrace => some (.complete stack (.object done.reverse))
  | .colon stack done name, .colon => some (.value (.members done name :: stack))
  | .complete (.items done :: stack) v, .comma => some (.value (.items (v :: done) :: stack))
  | .complete (.items done :: stack) v, .closeBracket =>
    some (.complete stack (.array (v :: done).reverse))
  | .complete (.members done name :: stack) v, .comma =>
    some (.key stack ((name, v) :: done) false)
  | .complete (.members done name :: stack) v, .closeBrace =>
    some (.complete stack (.object ((name, v) :: done).reverse))
  | _, _ => none

/-- The value that tokens write, with at most `limit` arrays and objects inside each other. -/
def ofTokens? (limit : Nat) (tokens : List Token) : Option Json :=
  match tokens.foldlM (State.step limit) (.value []) with
  | some (.complete [] v) => some v
  | _ => none

/-- The nesting that is accepted in text from outside. -/
def nestingLimit : Nat := 127

/-- Reads JSON text with at most `limit` arrays and objects inside each other. -/
def parseWithin? (limit : Nat) (text : String) : Option Json := do
  ofTokens? limit (← lex text.toList)

def parse? (text : String) : Option Json := parseWithin? nestingLimit text

end CatalogSearch.Json
