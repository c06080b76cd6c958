import CatalogSearch.Toml.Scalar

/-!
Reading TOML documents. The text is first read as a list of statements: headers, and assignments to
dotted keys. The statements then build the table of the document, and it is there that a key may not
be given twice and that a table may not be reopened by the wrong kind of statement.
-/

namespace CatalogSearch.Toml

/-! ### Tables under construction -/

/-- How a table came about: as a step on the way to another header, by dotted keys, or by a header
of its own. -/
inductive Origin where
  | implicit
  | dotted
  | header
  deriving DecidableEq

/-- A part of a document under construction. -/
inductive Node where
  | leaf (v : Value)
  | table (origin : Origin) (entries : List (String × Node))
  | tables (earlier : List (List (String × Node))) (last : List (String × Node))

/-- The entries of a table under construction. -/
abbrev Entries := List (String × Node)

/-- Puts a node in the place of the one with the same key. -/
def Entries.replace (key : String) (node : Node) (es : Entries) : Entries :=
  es.map fun entry => if entry.1 = key then (key, node) else entry

/-- Changes the table that a header's path leads to, making the tables on the way. -/
def Entries.within (change : Entries → Option Entries) : List String → Entries → Option Entries
  | [], es => change es
  | key :: path, es =>
    match es.lookup key with
    | none => do
      let inner ← within change path []
      return es ++ [(key, .table .implicit inner)]
    | some (.table origin inner) => do
      return es.replace key (.table origin (← within change path inner))
    | some (.tables earlier last) => do
      return es.replace key (.tables earlier (← within change path last))
    | some (.leaf _) => none

/-- Gives a key a value in a table that is itself open to it: the table of the last header, or one
made by dotted keys. -/
def Entries.assign (isOpen : Bool) (key : String) (v : Value) : List String → Entries →
    Option Entries
  | [], es => if isOpen && (es.lookup key).isNone then some (es ++ [(key, .leaf v)]) else none
  | step :: path, es =>
    match es.lookup step with
    | none => do return es ++ [(step, .table .dotted (← assign true key v path []))]
    | some (.table .header _) => none
    | some (.table origin inner) => do
      return es.replace step (.table origin (← assign (origin == .dotted) key v path inner))
    | some (.tables earlier last) => do
      return es.replace step (.tables earlier (← assign false key v path last))
    | some (.leaf _) => none

/-- Opens the table of a header, which may have been made on the way to another one. -/
def Entries.openTable (key : String) (es : Entries) : Option Entries :=
  match es.lookup key with
  | none => some (es ++ [(key, .table .header [])])
  | some (.table .implicit inner) => some (es.replace key (.table .header inner))
  | some _ => none

def Entries.addTable (key : String) (es : Entries) : Option Entries :=
  match es.lookup key with
  | none => some (es ++ [(key, .tables [] [])])
  | some (.tables earlier last) => some (es.replace key (.tables (earlier ++ [last]) []))
  | some _ => none

mutual

def Node.value : Node → Value
  | .leaf v => v
  | .table _ entries => .table (entryValues entries)
  | .tables earlier last => .array (tableValues earlier ++ [.table (entryValues last)])

def entryValues : List (String × Node) → List (String × Value)
  | [] => []
  | (key, node) :: rest => (key, node.value) :: entryValues rest

def tableValues : List (List (String × Node)) → List Value
  | [] => []
  | entries :: rest => .table (entryValues entries) :: tableValues rest

end

/-! ### Statements -/

/-- A line of a document that says something. -/
inductive Statement where
  | header (path : List String) (key : String)
  | arrayHeader (path : List String) (key : String)
  | assignment (path : List String) (key : String) (v : Value)

/-- The dotted keys that are accepted have at most this many parts. -/
def keyLimit : Nat := 80

/-- Arrays and inline tables may stand this deep inside each other. -/
def nestingLimit : Nat := 80

def isKeyChar (c : Char) : Bool := c.isAlphanum || c = '_' || c = '-'

def skipSpace (cs : List Char) : List Char := cs.dropWhile isSpace

def keyPart? (cs : List Char) : Option (String × List Char) :=
  match cs with
  | '"' :: rest => (scanBasic rest).map fun (text, after) => (String.ofList text, after)
  | '\'' :: rest => (scanLiteral rest).map fun (text, after) => (String.ofList text, after)
  | _ =>
    let bare := cs.takeWhile isKeyChar
    if bare.isEmpty then none else some (String.ofList bare, cs.dropWhile isKeyChar)

/-- Reads a dotted key of at most so many parts: the parts before the last one, and the last. -/
def key? : Nat → List Char → Option ((List String × String) × List Char)
  | 0, _ => none
  | fuel + 1, cs => do
    let (part, rest) ← keyPart? (skipSpace cs)
    match skipSpace rest with
    | '.' :: rest => do
      let ((path, key), rest) ← key? fuel rest
      return ((part :: path, key), rest)
    | rest => return (([], part), rest)

/-- Passes over the remainder of a comment; its line break stays. -/
def skipComment? (cs : List Char) : Option (List Char) :=
  match cs.dropWhile fun c => !isControl c with
  | [] => some []
  | '\n' :: rest => some ('\n' :: rest)
  | '\r' :: '\n' :: rest => some ('\n' :: rest)
  | _ => none

def skipBlank? : Nat → List Char → Option (List Char)
  | 0, _ => none
  | fuel + 1, cs =>
    match skipSpace cs with
    | '\n' :: rest => skipBlank? fuel rest
    | '\r' :: '\n' :: rest => skipBlank? fuel rest
    | '#' :: rest => do skipBlank? fuel (← skipComment? rest)
    | rest => some rest

/-- Passes over the end of a line, which may hold a comment. -/
def skipLineEnd? (cs : List Char) : Option (List Char) :=
  match skipSpace cs with
  | [] => some []
  | '\n' :: rest => some rest
  | '\r' :: '\n' :: rest => some rest
  | '#' :: rest => do
    match ← skipComment? rest with
    | _ :: rest => return rest
    | [] => return []
  | _ => none

def isBareChar (c : Char) : Bool :=
  c.isAlphanum || c = '_' || c = '-' || c = '+' || c = '.' || c = ':'

/-- Reads a bare word; a time may follow a date after one space. -/
def bareWord (cs : List Char) : List Char × List Char :=
  let word := cs.takeWhile isBareChar
  let rest := cs.dropWhile isBareChar
  match rest with
  | ' ' :: c :: after =>
    if (Day.ofChars? word).isSome && c.isDigit then
      (word ++ ' ' :: (c :: after).takeWhile isBareChar, (c :: after).dropWhile isBareChar)
    else (word, rest)
  | _ => (word, rest)

mutual

/-- Reads a value inside at most `depth` further arrays and inline tables. -/
def value? : Nat → Nat → List Char → Option (Value × List Char)
  | 0, _, _ => none
  | fuel + 1, depth, cs =>
    match cs with
    | '[' :: rest => if depth = 0 then none else array? fuel (depth - 1) [] rest
    | '\x7b' :: rest => if depth = 0 then none else inlineTable? fuel (depth - 1) [] rest
    | '"' :: _ => do
      let (text, rest) ← scanString? cs
      return (.string (String.ofList text), rest)
    | '\'' :: _ => do
      let (text, rest) ← scanString? cs
      return (.string (String.ofList text), rest)
    | _ => do
      let (word, rest) := bareWord cs
      return (← bareValue? word, rest)

/-- Reads the remaining items of an array, after those read already. -/
def array? : Nat → Nat → List Value → List Char → Option (Value × List Char)
  | 0, _, _, _ => none
  | fuel + 1, depth, done, cs => do
    match ← skipBlank? (cs.length + 1) cs with
    | ']' :: rest => return (.array done, rest)
    | cs => do
      let (v, rest) ← value? fuel depth cs
      match ← skipBlank? (rest.length + 1) rest with
      | ',' :: rest => array? fuel depth (done ++ [v]) rest
      | ']' :: rest => return (.array (done ++ [v]), rest)
      | _ => none

/-- Reads the remaining assignments of an inline table, after those read already. -/
def inlineTable? : Nat → Nat → Entries → List Char → Option (Value × List Char)
  | 0, _, _, _ => none
  | fuel + 1, depth, done, cs => do
    match ← skipBlank? (cs.length + 1) cs with
    | '\x7d' :: rest => return (.table (entryValues done), rest)
    | cs => do
      let ((path, key), rest) ← key? keyLimit cs
      match ← skipBlank? (rest.length + 1) rest with
      | '=' :: rest => do
        let (v, rest) ← value? fuel depth (← skipBlank? (rest.length + 1) rest)
        let done ← done.assign true key v path
        match ← skipBlank? (rest.length + 1) rest with
        | ',' :: rest => inlineTable? fuel depth done rest
        | '\x7d' :: rest => return (.table (entryValues done), rest)
        | _ => none
      | _ => none

end

/-- Reads one statement, up to the end of its line. -/
def statement? (cs : List Char) : Option (Statement × List Char) :=
  match cs with
  | '[' :: '[' :: rest => do
    let ((path, key), rest) ← key? keyLimit rest
    match rest with
    | ']' :: ']' :: rest => return (.arrayHeader path key, ← skipLineEnd? rest)
    | _ => none
  | '[' :: rest => do
    let ((path, key), rest) ← key? keyLimit rest
    match rest with
    | ']' :: rest => return (.header path key, ← skipLineEnd? rest)
    | _ => none
  | _ => do
    let ((path, key), rest) ← key? keyLimit cs
    match rest with
    | '=' :: rest => do
      let (v, rest) ← value? (2 * rest.length + 2) nestingLimit (skipSpace rest)
      return (.assignment path key v, ← skipLineEnd? rest)
    | _ => none

def statements? : Nat → List Char → Option (List Statement)
  | 0, _ => none
  | fuel + 1, cs => do
    match ← skipBlank? (cs.length + 1) cs with
    | [] => return []
    | cs => do
      let (s, rest) ← statement? cs
      return s :: (← statements? fuel rest)

/-- A document under construction: its entries, and the path of the last header. -/
structure Draft where
  entries : Entries
  current : List String

def Draft.add? (d : Draft) : Statement → Option Draft
  | .header path key => do
    return ⟨← d.entries.within (Entries.openTable key) path, path ++ [key]⟩
  | .arrayHeader path key => do
    return ⟨← d.entries.within (Entries.addTable key) path, path ++ [key]⟩
  | .assignment path key v => do
    return { d with entries := ← d.entries.within (Entries.assign true key v path) d.current }

/-- Drops a byte order mark at the front. -/
def dropMark : List Char → List Char
  | '\uFEFF' :: rest => rest
  | cs => cs

def parse? (text : String) : Option Value := do
  let cs := dropMark text.toList
  let draft ← (← statements? (cs.length + 1) cs).foldlM Draft.add? ⟨[], []⟩
  return .table (entryValues draft.entries)

end CatalogSearch.Toml
