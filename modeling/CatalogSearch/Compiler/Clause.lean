import CatalogSearch.Compiler.Basic
import CatalogSearch.DateTime

/-!
The query of a single clause. The index of a clause is resolved through the aliases and looked up
as a group or a field, the value is normalized, and the comparator's strategy makes the query. A
value with a wildcard goes to the strategy for patterns whatever the comparator. Fields with typed
values take no patterns, and only values of their type.
-/

namespace CatalogSearch.Compiler

/-- The index that stands for all records. -/
def allRecordsIndex : String := "cql.allRecords"

/-- The index that stands for any field. -/
def keywordIndex : String := "keyword"

/-- Whether a clause is one of the two ways to ask for all records. -/
def isMatchAll (c : Clause) : Bool :=
  c.comparator == "=" &&
    (Text.eqIgnoreAsciiCase c.index allRecordsIndex && c.term == "1" ||
      Text.eqIgnoreAsciiCase c.index keywordIndex && c.term == "*")

/-- What the index of a clause names. -/
inductive Target where
  | field (f : Field)
  | group (members : List String)

/-- What a path without alias names: a group of one is its only member. -/
def target? (k : Catalog) (resource path : String) : Option Target :=
  match k.resolveGroup resource path with
  | [] => (k.field? resource path).map .field
  | [only] => (k.field? resource only).map .field
  | members => some (.group members)

/-- The normalizer of a target, which for a group is that of its first member. -/
def Target.normalizer? (k : Catalog) (resource : String) : Target → Option String
  | field f => f.normalizer
  | group members => do (← k.field? resource (← members.head?)).normalizer

/-- Whether a value is a pattern with a wildcard. -/
def isPattern : Value → Bool
  | .text s => s.toList.contains '*'
  | .long _ => false

def long? (s : String) : Option Int :=
  (Text.int? (Text.trim s.toList)).filter fun n => longMin ≤ n && n ≤ longMax

/-- The value of a field for a text, or what was expected instead of it. -/
def typedValue (t : ValueType) (s : String) : Except String Value :=
  match t with
  | .keyword => .ok (.text s)
  | .date =>
    if DateTime.isValid s then .ok (.text s) else .error "expected an ISO-8601 date or date-time"
  | .long =>
    match long? s with
    | some n => .ok (.long n)
    | none => .error "expected an integer"
  | .boolean =>
    let word := Text.lowerAscii s
    if word = "true" ∨ word = "false" then .ok (.text word) else .error "expected true or false"

/-- The value that a field is compared with. An integer is taken as it is. -/
def checkValue (f : Field) : Value → Except CompileError Value
  | .long n => .ok (.long n)
  | .text s =>
    match typedValue f.valueType s with
    | .ok v => .ok v
    | .error reason => .error (.invalidValue f.path s reason)

/-- The members of a group as strategies see them: a member without a description is compared as a
whole, and so is the untokenized form of a full-text field where it is asked for. -/
def groupMembers (k : Catalog) (resource : String) (literal : Bool) (members : List String) :
    List Member :=
  members.map fun path =>
    match k.field? resource path with
    | some f =>
      if literal && f.isFulltext then .untokenized (FieldName.literal f.path) else .ofField f
    | none => .untokenized path

/-- The value of a clause in the form that its target holds. -/
def normalizedValue (c : Compiler) (resource : String) (t : Target) (term : String) :
    Except CompileError Value :=
  match t.normalizer? c.catalog resource with
  | none => .ok (.text term)
  | some name =>
    match c.normalizers.normalize? name term with
    | some v => .ok v
    | none => .error (.unsupported (.normalizer name))

/-- The strategy for a value and a comparator, whose case does not matter. -/
def strategyFor (c : Compiler) (v : Value) (comparator : String) : Except CompileError Strategy :=
  let key := if isPattern v then Strategy.wildcardComparator else Text.lowerString comparator
  match c.dispatch.lookup key with
  | some s => .ok s
  | none => .error (.unsupported (.comparator comparator))

/-- The query of a strategy for a value on a target. -/
def targetQuery (k : Catalog) (resource : String) (s : Strategy) (v : Value)
    (modifiers : List Modifier) : Target → Except CompileError Query
  | .group members =>
    s.onGroup v (groupMembers k resource (hasModifier modifiers Strategy.stringModifier) members)
  | .field f =>
    if f.isFulltext then s.onFulltext v ⟨f.path, f.multilang⟩ modifiers
    else if isPattern v && f.valueType ≠ .keyword then
      .error (.unsupported (.wildcard f.valueType.text f.path))
    else do s.onTerm (← checkValue f v) f.path

def clauseQuery (c : Compiler) (resource : String) (clause : Clause) : Except CompileError Query :=
  if isMatchAll clause then .ok .matchAll
  else
    let path := c.catalog.resolveAlias resource clause.index
    match target? c.catalog resource path with
    | none => .error (.invalidField path resource)
    | some t => do
      let v ← c.normalizedValue resource t clause.term
      let s ← c.strategyFor v clause.comparator
      targetQuery c.catalog resource s v clause.modifiers t

end CatalogSearch.Compiler
