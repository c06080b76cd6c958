import CatalogSearch.Text.Printable

/-!
Two ways to put a text between double quotes. A search literal escapes the double quote alone. A
visible literal also spells out what a reader could not see.
-/

namespace CatalogSearch.Text

def escapeQuotes (cs : List Char) : List Char :=
  cs.flatMap fun c => if c = '"' then ['\\', '"'] else [c]

/-- A search literal: the text between double quotes, with a backslash before each of its own. -/
def quote (s : String) : String := String.ofList ('"' :: escapeQuotes s.toList ++ ['"'])

/-- A code point in lower-case hexadecimal digits, without leading zeros. -/
def hexOf (code : Nat) : List Char := Nat.toDigits 16 code

def visibleChar (c : Char) : List Char :=
  match c with
  | '\x00' => ['\\', '0']
  | '\t' => ['\\', 't']
  | '\r' => ['\\', 'r']
  | '\n' => ['\\', 'n']
  | '"' => ['\\', '"']
  | '\\' => ['\\', '\\']
  | _ => if isPrintable c then [c] else '\\' :: 'u' :: '\x7b' :: hexOf c.toNat ++ ['\x7d']

/-- A visible literal: the text between double quotes, hidden characters by their code points. -/
def visible (s : String) : String :=
  String.ofList ('"' :: s.toList.flatMap visibleChar ++ ['"'])

end CatalogSearch.Text
