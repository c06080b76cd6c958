import CatalogSearch.Json.Reader
import CatalogSearch.Toml.Basic

/-!
TOML values without parts: strings in their four notations, and the bare words that write numbers,
truth values and date-times.
-/

namespace CatalogSearch.Toml

def isSpace (c : Char) : Bool := c = ' ' || c = '\t'

/-- Characters that may not stand in text as themselves: controls other than the tab. -/
def isControl (c : Char) : Bool := (c.toNat < 0x20 && c ≠ '\t') || c.toNat = 0x7F

def hexNumber? (cs : List Char) : Option Nat :=
  cs.foldlM (fun n c => (Json.hexValue? c).map (16 * n + ·)) 0

/-- The character with the code point that hexadecimal digits write. -/
def hexChar? (cs : List Char) : Option Char := do
  let code ← hexNumber? cs
  if code.isValidChar then some (Char.ofNat code) else none

/-- The character that a letter after a backslash stands for. -/
def simpleEscape? : Char → Option Char
  | 'b' => some '\x08'
  | 't' => some '\t'
  | 'n' => some '\n'
  | 'f' => some '\x0c'
  | 'r' => some '\r'
  | 'e' => some '\x1b'
  | '"' => some '"'
  | '\\' => some '\\'
  | _ => none

/-- Puts a character in front of the text that was read. -/
def consText (c : Char) (read : Option (List Char × List Char)) : Option (List Char × List Char) :=
  read.map fun (text, rest) => (c :: text, rest)

/-- Reads a string between double quotes up to the closing one. -/
def scanBasic : List Char → Option (List Char × List Char)
  | '"' :: rest => some ([], rest)
  | '\\' :: 'x' :: a :: b :: rest => do
    consText (← hexChar? [a, b]) (scanBasic rest)
  | '\\' :: 'u' :: a :: b :: c :: d :: rest => do
    consText (← hexChar? [a, b, c, d]) (scanBasic rest)
  | '\\' :: 'U' :: a :: b :: c :: d :: e :: f :: g :: h :: rest => do
    consText (← hexChar? [a, b, c, d, e, f, g, h]) (scanBasic rest)
  | '\\' :: c :: rest => do consText (← simpleEscape? c) (scanBasic rest)
  | c :: rest => if isControl c then none else consText c (scanBasic rest)
  | [] => none

/-- Reads a string between single quotes up to the closing one. -/
def scanLiteral : List Char → Option (List Char × List Char)
  | '\'' :: rest => some ([], rest)
  | c :: rest => if isControl c then none else consText c (scanLiteral rest)
  | [] => none

/-- Whether a line ends here but for white space. -/
def endsLine (cs : List Char) : Bool :=
  match cs.dropWhile isSpace with
  | '\n' :: _ => true
  | '\r' :: '\n' :: _ => true
  | _ => false

/-- Reads a string between triple double quotes up to the closing ones. While `skipping`, after a
backslash at the end of a line, white space and line breaks are passed over; other line breaks stay
as they are written. -/
def scanMultiBasic (skipping : Bool) : List Char → Option (List Char × List Char)
  | '"' :: '"' :: '"' :: '"' :: '"' :: rest => some (['"', '"'], rest)
  | '"' :: '"' :: '"' :: '"' :: rest => some (['"'], rest)
  | '"' :: '"' :: '"' :: rest => some ([], rest)
  | '\r' :: '\n' :: rest =>
    if skipping then scanMultiBasic true rest
    else consText '\r' (consText '\n' (scanMultiBasic false rest))
  | '\\' :: 'x' :: a :: b :: rest => do
    consText (← hexChar? [a, b]) (scanMultiBasic false rest)
  | '\\' :: 'u' :: a :: b :: c :: d :: rest => do
    consText (← hexChar? [a, b, c, d]) (scanMultiBasic false rest)
  | '\\' :: 'U' :: a :: b :: c :: d :: e :: f :: g :: h :: rest => do
    consText (← hexChar? [a, b, c, d, e, f, g, h]) (scanMultiBasic false rest)
  | '\\' :: c :: rest =>
    if endsLine (c :: rest) then scanMultiBasic true (c :: rest)
    else do consText (← simpleEscape? c) (scanMultiBasic false rest)
  | c :: rest =>
    if skipping && (isSpace c || c = '\n') then scanMultiBasic true rest
    else if isControl c && c ≠ '\n' then none
    else consText c (scanMultiBasic false rest)
  | [] => none

/-- Reads a string between triple single quotes up to the closing ones; line breaks stay as they are
written. -/
def scanMultiLiteral : List Char → Option (List Char × List Char)
  | '\'' :: '\'' :: '\'' :: '\'' :: '\'' :: rest => some (['\'', '\''], rest)
  | '\'' :: '\'' :: '\'' :: '\'' :: rest => some (['\''], rest)
  | '\'' :: '\'' :: '\'' :: rest => some ([], rest)
  | '\r' :: '\n' :: rest => consText '\r' (consText '\n' (scanMultiLiteral rest))
  | c :: rest =>
    if isControl c && c ≠ '\n' then none else consText c (scanMultiLiteral rest)
  | [] => none

/-- Drops a line break directly after the opening quotes. -/
def dropBreak : List Char → List Char
  | '\n' :: rest => rest
  | '\r' :: '\n' :: rest => rest
  | cs => cs

/-- Reads a string in whichever notation its opening quotes show. -/
def scanString? : List Char → Option (List Char × List Char)
  | '"' :: '"' :: '"' :: rest => scanMultiBasic false (dropBreak rest)
  | '\'' :: '\'' :: '\'' :: rest => scanMultiLiteral (dropBreak rest)
  | '"' :: rest => scanBasic rest
  | '\'' :: rest => scanLiteral rest
  | _ => none

/-- The digits of a number without the underscores between them; an underscore anywhere else makes
the number none. -/
def withoutUnderscores? (isDigit : Char → Bool) : List Char → Option (List Char)
  | [] => some []
  | [c] => if isDigit c then some [c] else none
  | c :: '_' :: d :: rest =>
    if isDigit c && isDigit d then (withoutUnderscores? isDigit (d :: rest)).map (c :: ·) else none
  | c :: rest => if isDigit c then (withoutUnderscores? isDigit rest).map (c :: ·) else none

/-- Decimal digits with underscores between them, at least one. -/
def digits? (cs : List Char) : Option (List Char) := do
  let digits ← withoutUnderscores? Char.isDigit cs
  if digits.isEmpty then none else some digits

/-- The number that digits of a base write, with underscores between them. -/
def natOfBase? (base : Nat) (cs : List Char) : Option Nat := do
  let isDigit := fun c => ((Json.hexValue? c).map (decide <| · < base)).getD false
  let digits ← withoutUnderscores? isDigit cs
  if digits.isEmpty then none
  else some (digits.foldl (fun n c => base * n + (Json.hexValue? c).getD 0) 0)

def splitSign : List Char → Int × List Char
  | '-' :: rest => (-1, rest)
  | '+' :: rest => (1, rest)
  | cs => (1, cs)

/-- Whether an integer fits 128 bits, with a sign or without. -/
def fits128 (n : Int) : Bool :=
  -0x80000000000000000000000000000000 ≤ n && n < 0x100000000000000000000000000000000

/-- Reads an integer. Up to 128 bits are accepted. -/
def integer? (cs : List Char) : Option Int := do
  let n ← match cs with
    | '0' :: 'x' :: rest => (natOfBase? 16 rest).map Int.ofNat
    | '0' :: 'o' :: rest => (natOfBase? 8 rest).map Int.ofNat
    | '0' :: 'b' :: rest => (natOfBase? 2 rest).map Int.ofNat
    | _ => do
      let (sign, rest) := splitSign cs
      let digits ← digits? rest
      if Json.isIntegerPart digits then some (sign * Text.natOfDigits digits) else none
  if fits128 n then some n else none

/-- Reads the exponent of a float, which may be missing. -/
def floatExponent? : List Char → Option Int
  | [] => some 0
  | e :: cs =>
    if e = 'e' ∨ e = 'E' then do
      let (sign, rest) := splitSign cs
      return sign * Text.natOfDigits (← digits? rest)
    else none

/-- Whether a bare word is a float of a finite magnitude that a double has, or a special one. -/
def isFloat (cs : List Char) : Bool :=
  let (_, unsigned) := splitSign cs
  if unsigned = ['i', 'n', 'f'] ∨ unsigned = ['n', 'a', 'n'] then true
  else
    let isWhole := fun c => c.isDigit || c = '_'
    let value : Option Decimal := do
      let whole ← digits? (unsigned.takeWhile isWhole)
      if !Json.isIntegerPart whole then none
      else match unsigned.dropWhile isWhole with
        | '.' :: rest => do
          let fraction ← digits? (rest.takeWhile isWhole)
          let exponent ← floatExponent? (rest.dropWhile isWhole)
          return ⟨Text.natOfDigits (whole ++ fraction), exponent - fraction.length⟩
        | [] => none
        | rest => return ⟨Text.natOfDigits whole, ← floatExponent? rest⟩
    match value with
    | some d => !Json.exceedsDouble d
    | none => false

def bareValue? (cs : List Char) : Option Value :=
  if cs = ['t', 'r', 'u', 'e'] then some (.boolean true)
  else if cs = ['f', 'a', 'l', 's', 'e'] then some (.boolean false)
  else match integer? cs with
    | some n => some (.integer n)
    | none =>
      if isFloat cs then some .float
      else (Datetime.ofChars? cs).map .datetime

end CatalogSearch.Toml
