import CatalogSearch.Text.Quoted
import CatalogSearch.Expression.Basic

/-!
The texts of an expression: the canonical query text on one line, in which every operand of a
connective that is not a single clause stands in parentheses, and the outline with one node a line.
-/

namespace CatalogSearch

/-- The name of a modifier, with its comparator and value if it has both. -/
def Modifier.text (m : Modifier) : String :=
  match m.comparator, m.value with
  | some comparator, some value => "/" ++ m.name ++ comparator ++ value
  | _, _ => "/" ++ m.name

def modifiersText (modifiers : List Modifier) : String :=
  String.join (modifiers.map Modifier.text)

def Clause.text (c : Clause) : String :=
  c.index ++ " " ++ c.comparator ++ modifiersText c.modifiers ++ " " ++ Text.quote c.term

def Connective.text : Connective → String
  | and => "and"
  | or => "or"
  | not => "not"
  | prox => "prox"

def Connective.label : Connective → String
  | and => "AND"
  | or => "OR"
  | not => "NOT"
  | prox => "PROX"

def SortIndex.text (s : SortIndex) : String := s.base ++ modifiersText s.modifiers

def sortIndexesText (indexes : List SortIndex) : String :=
  " ".intercalate (indexes.map SortIndex.text)

namespace Expression

/-- Puts the text of an operand in parentheses unless it is a clause. -/
def parenthesize (e : Expression) (text : String) : String :=
  match e with
  | clause _ => text
  | _ => "(" ++ text ++ ")"

def text : Expression → String
  | clause c => c.text
  | boolean op left right =>
    left.parenthesize left.text ++ " " ++ op.text ++ " " ++ right.parenthesize right.text
  | sorted subtree indexes => subtree.text ++ " sortBy " ++ sortIndexesText indexes
  | assigned (some name) uri subtree =>
    "> " ++ name ++ " = " ++ Text.quote uri ++ " " ++ subtree.text
  | assigned none uri subtree => "> " ++ Text.quote uri ++ " " ++ subtree.text

/-- What a node of the outline shows on its own line. -/
def label : Expression → String
  | clause c => "Term(" ++ c.text ++ ")"
  | boolean op _ _ => op.label
  | sorted _ indexes => "SortBy(" ++ sortIndexesText indexes ++ ")"
  | assigned (some name) uri _ => "Prefix(" ++ name ++ " = " ++ Text.visible uri ++ ")"
  | assigned none uri _ => "Prefix(" ++ Text.visible uri ++ ")"

def outlineLine (depth : Nat) (line : String) : String :=
  String.ofList (List.replicate (2 * depth) ' ') ++ line ++ "\n"

def outlineAt (depth : Nat) (e : Expression) : String :=
  match e with
  | clause _ => outlineLine depth e.label
  | boolean _ left right =>
    outlineLine depth e.label ++ left.outlineAt (depth + 1) ++ right.outlineAt (depth + 1)
  | sorted subtree _ => outlineLine depth e.label ++ subtree.outlineAt (depth + 1)
  | assigned _ _ subtree => outlineLine depth e.label ++ subtree.outlineAt (depth + 1)

/-- The outline: one node a line, each two spaces deeper than the node it belongs to. -/
def outline (e : Expression) : String := e.outlineAt 0

end Expression

end CatalogSearch
