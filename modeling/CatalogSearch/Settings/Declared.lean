import CatalogSearch.Catalog.Basic
import CatalogSearch.Toml.Reader

/-!
What one configuration file declares, before files are merged. Every setting may be missing. The
members of a table are listed in some order that no later step may depend on.
-/

namespace CatalogSearch

/-- A field as a file declares it. -/
structure DeclaredField where
  capabilities : List Capability
  multilang : Bool
  normalizer : Option String
  valueType : ValueType
  sort : Option SortSettings
  deriving DecidableEq, Repr

/-- A resource as a file declares it. -/
structure DeclaredResource where
  aliases : List (String × String)
  groups : List (String × List String)
  fields : List (String × DeclaredField)
  deriving DecidableEq, Repr

/-- What a file declares. A root file keeps other files from being looked for. -/
structure Declared where
  root : Bool
  defaultLimit : Option Nat
  callNumberRangeOffset : Option Nat
  resources : List (String × DeclaredResource)
  deriving DecidableEq, Repr

namespace Declared

open Toml

/-- Reads a member that may be missing. -/
def optional? {α : Type} (key : String) (read : Value → Option α)
    (entries : List (String × Value)) : Option (Option α) :=
  match entries.lookup key with
  | none => some none
  | some v => (read v).map some

/-- Reads a member that has a default. -/
def member? {α : Type} (key : String) (default : α) (read : Value → Option α)
    (entries : List (String × Value)) : Option α := do
  return (← optional? key read entries).getD default

def table? {α : Type} (read : Value → Option α) (v : Value) : Option (List (String × α)) := do
  (← v.entries?).mapM fun (key, v) => do return (key, ← read v)

def strings? (v : Value) : Option (List String) := do (← v.items?).mapM Value.string?

def oneOrMany? : Value → Option (List String)
  | .string s => some [s]
  | v => strings? v

/-- Reads a capability that is an item of an array. -/
def capabilityItem? : Value → Option Capability
  | .string s => Capability.ofText? s
  | .table [(key, .table [])] => Capability.ofText? key
  | _ => none

def capabilities? : Value → Option (List Capability)
  | .string s => (Capability.ofText? s).map ([·])
  | v => do (← v.items?).mapM capabilityItem?

def sortSettings? (v : Value) : Option SortSettings := do
  let entries ← v.record? ["field", "type", "secondary"]
  return {
    field := ← optional? "field" Value.string? entries
    layout := ← member? "type" .single (·.word? >>= SortLayout.ofText?) entries
    secondary := ← member? "secondary" [] strings? entries }

/-- The fields of a declared field, in the order of the array form, which has to name them all. -/
def fieldKeys : List String := ["capabilities", "multilang", "normalizer", "value_type", "sort"]

def field? (v : Value) : Option DeclaredField := do
  let entries ← v.record? fieldKeys
  if let .array items := v then guard (fieldKeys.length ≤ items.length)
  return {
    capabilities := ← member? "capabilities" [] capabilities? entries
    multilang := ← member? "multilang" false Value.boolean? entries
    normalizer := ← optional? "normalizer" Value.string? entries
    valueType := ← member? "value_type" .keyword (·.word? >>= ValueType.ofText?) entries
    sort := ← optional? "sort" sortSettings? entries }

def resource? (v : Value) : Option DeclaredResource := do
  let entries ← v.record? ["aliases", "groups", "fields"]
  return {
    aliases := ← member? "aliases" [] (table? Value.string?) entries
    groups := ← member? "groups" [] (table? oneOrMany?) entries
    fields := ← member? "fields" [] (table? field?) entries }

def ofToml? (v : Value) : Option Declared := do
  let entries ← v.entries?
  let browse ← member? "browse" [] (·.record? ["default_limit", "call_number_range_offset"]) entries
  return {
    root := ← member? "root" false Value.boolean? entries
    defaultLimit := ← optional? "default_limit" Value.unsigned64? browse
    callNumberRangeOffset := ← optional? "call_number_range_offset" Value.unsigned64? browse
    resources := ← member? "resource" [] (table? resource?) entries }

def parse? (text : String) : Option Declared := do ofToml? (← Toml.parse? text)

end Declared

end CatalogSearch
