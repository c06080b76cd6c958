import CatalogSearch.Json.Reader
import CatalogSearch.Expression.Text

/-!
The JSON form of expressions. A record is an object whose members have the names of its fields, or
an array with the fields in order; a node carries its kind in the member `type`, or as the first
item. Unknown members are passed over, known ones may not be repeated. What is written is always
the object form, without empty modifiers and absent options.
-/

namespace CatalogSearch

/-! ### Writing -/

/-- The members of a modifier that are written. -/
def Modifier.toJson (m : Modifier) : Json :=
  .object <| ("name", .string m.name) ::
    (Json.optional "comparator" .string m.comparator ++ Json.optional "value" .string m.value)

/-- Modifiers as a member that is left out when there are none. -/
def modifiersMember (modifiers : List Modifier) : List (String × Json) :=
  Json.unlessEmpty "modifiers" (modifiers.map Modifier.toJson)

def SortIndex.toJson (s : SortIndex) : Json :=
  .object (("base", .string s.base) :: modifiersMember s.modifiers)

namespace Expression

def toJson : Expression → Json
  | clause c =>
    .object <| [("type", .string "term"), ("index", .string c.index),
      ("comparator", .string c.comparator), ("term", .string c.term)] ++ modifiersMember c.modifiers
  | boolean op left right =>
    .object [("type", .string "boolean"), ("operator", .string op.text),
      ("left", left.toJson), ("right", right.toJson)]
  | sorted subtree indexes =>
    .object [("type", .string "sort"), ("subtree", subtree.toJson),
      ("indexes", .array (indexes.map SortIndex.toJson))]
  | assigned name uri subtree =>
    .object <| ("type", .string "prefix") :: Json.optional "name" .string name ++
      [("uri", .string uri), ("subtree", subtree.toJson)]

end Expression

/-! ### Reading -/

namespace Json

def string? : Json → Option String
  | .string s => some s
  | _ => none

def items? : Json → Option (List Json)
  | .array items => some items
  | _ => none

/-- Looks a member up that may be missing; `none` says that it is there more than once. -/
def unique? {α : Type} (key : String) (members : List (String × α)) : Option (Option α) :=
  match members.filter fun member => member.1 == key with
  | [] => some none
  | [member] => some (some member.2)
  | _ => none

/-- The fields of a record, in the order of their names: from an object, in which unknown members
are passed over, or from an array, which may end early but not run on. -/
def recordOf? {α : Type} (names : List String) : List (String × α) ⊕ List α →
    Option (List (Option α))
  | .inl members => names.mapM fun name => unique? name members
  | .inr items =>
    if items.length ≤ names.length then
      some (items.map some ++ List.replicate (names.length - items.length) none)
    else none

/-- The parts of an object or an array. -/
def parts? : Json → Option (List (String × Json) ⊕ List Json)
  | .object members => some (.inl members)
  | .array items => some (.inr items)
  | _ => none

/-- A text that may be missing or null. -/
def optionalString? : Option Json → Option (Option String)
  | none => some none
  | some .null => some none
  | some v => v.string?.map some

end Json

open Json

def Modifier.ofJson? (v : Json) : Option Modifier := do
  match ← recordOf? ["name", "comparator", "value"] (← v.parts?) with
  | [some name, comparator, value] =>
    return ⟨← name.string?, ← optionalString? comparator, ← optionalString? value⟩
  | _ => none

/-- Reads modifiers, of which there are none if the member is missing. -/
def modifiers? : Option Json → Option (List Modifier)
  | none => some []
  | some v => do (← v.items?).mapM Modifier.ofJson?

def SortIndex.ofJson? (v : Json) : Option SortIndex := do
  match ← recordOf? ["base", "modifiers"] (← v.parts?) with
  | [some base, modifiers] => return ⟨← base.string?, ← modifiers? modifiers⟩
  | _ => none

def Connective.ofText? (word : String) : Option Connective :=
  [and, or, not, prox].find? fun op => op.text == word

/-- Reads a connective: its word, or an object with the word as only key and nothing in it. -/
def Connective.ofJson? : Json → Option Connective
  | .string word => ofText? word
  | .object [(word, .null)] => ofText? word
  | .object [(word, .object [])] => ofText? word
  | _ => none

namespace Expression

/-- The kinds of nodes. -/
inductive Kind where
  | term
  | boolean
  | sort
  | assignment

/-- Reads the kind of a node: its name, or below the root also its position in the list of kinds. -/
def Kind.ofJson? (belowRoot : Bool) : Json → Option Kind
  | .string "term" => some .term
  | .string "boolean" => some .boolean
  | .string "sort" => some .sort
  | .string "prefix" => some .assignment
  | .integer n =>
    if belowRoot ∧ 0 ≤ n then [Kind.term, .boolean, .sort, .assignment][n.toNat]? else none
  | _ => none

/-- A part of a node, and the expression that it is read as, if it is one. -/
structure Part where
  json : Json
  expression : Option Expression

/-- Reads a node of known kind from its remaining parts. -/
def ofParts? (parts : List (String × Part) ⊕ List Part) : Kind → Option Expression
  | .term => do
    match ← recordOf? ["index", "comparator", "term", "modifiers"] parts with
    | [some index, some comparator, some term, modifiers] =>
      return clause ⟨← index.json.string?, ← comparator.json.string?, ← term.json.string?,
        ← modifiers? (modifiers.map Part.json)⟩
    | _ => none
  | .boolean => do
    match ← recordOf? ["operator", "left", "right"] parts with
    | [some op, some left, some right] =>
      return boolean (← Connective.ofJson? op.json) (← left.expression) (← right.expression)
    | _ => none
  | .sort => do
    match ← recordOf? ["subtree", "indexes"] parts with
    | [some subtree, some indexes] =>
      return sorted (← subtree.expression) (← (← indexes.json.items?).mapM SortIndex.ofJson?)
    | _ => none
  | .assignment => do
    match ← recordOf? ["name", "uri", "subtree"] parts with
    | [name, some uri, some subtree] =>
      return assigned (← optionalString? (name.map Part.json)) (← uri.json.string?)
        (← subtree.expression)
    | _ => none

/-- Reads a node whose parts have been read already. -/
def assemble? (belowRoot : Bool) : List (String × Part) ⊕ List Part → Option Expression
  | .inl members => do
    let kind ← Kind.ofJson? belowRoot (← ← unique? "type" members).json
    ofParts? (.inl (members.filter fun member => member.1 != "type")) kind
  | .inr (first :: rest) => do
    ofParts? (.inr rest) (← Kind.ofJson? belowRoot first.json)
  | .inr [] => none

mutual

/-- Reads a node and all nodes below it. -/
def ofJsonAt? (belowRoot : Bool) : Json → Option Expression
  | .object members => assemble? belowRoot (.inl (readMembers members))
  | .array items => assemble? belowRoot (.inr (readItems items))
  | _ => none

/-- Reads the members of an object as nodes where they are nodes. -/
def readMembers : List (String × Json) → List (String × Part)
  | [] => []
  | (key, v) :: rest => (key, ⟨v, ofJsonAt? true v⟩) :: readMembers rest

/-- Reads the items of an array as nodes where they are nodes. -/
def readItems : List Json → List Part
  | [] => []
  | v :: rest => ⟨v, ofJsonAt? true v⟩ :: readItems rest

end

def ofJson? (v : Json) : Option Expression := ofJsonAt? false v

def parse? (text : String) : Option Expression := do ofJson? (← Json.parse? text)

end Expression

end CatalogSearch
