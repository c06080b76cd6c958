import CatalogSearch.Text.Digit

/-!
The arguments of the command line. Options are written in a long form, with their value after an
equals sign or as the next argument, or in a short form, of which several may share one dash. The
options for verbosity and for a configuration file may stand before or after the name of the
command, and count where they stand last.
-/

namespace CatalogSearch.Command

/-- The options of all commands. -/
inductive OptionName where
  | verbose
  | config
  | resource
  | explain
  | facet
  | field
  | limit
  | preceding
  | callNumber
  | force
  deriving DecidableEq, Repr

namespace OptionName

def long : OptionName → String
  | verbose => "verbose"
  | config => "config"
  | resource => "resource"
  | explain => "explain"
  | facet => "facet"
  | field => "field"
  | limit => "limit"
  | preceding => "preceding"
  | callNumber => "call-number"
  | force => "force"

def short? : OptionName → Option Char
  | verbose => some 'v'
  | resource => some 'r'
  | facet => some 'f'
  | limit => some 'n'
  | _ => none

def hasValue : OptionName → Bool
  | verbose | explain | callNumber | force => false
  | _ => true

def isRepeatable : OptionName → Bool
  | verbose | facet => true
  | _ => false

end OptionName

/-- An option as it was given. -/
structure Given where
  name : OptionName
  value : String
  deriving DecidableEq, Repr

/-- What arguments hold: options, and the arguments beside them. -/
structure Scan where
  options : List Given
  positional : List String
  deriving DecidableEq, Repr

namespace Scan

def withOption (name : OptionName) (value : String) (s : Scan) : Scan :=
  { s with options := ⟨name, value⟩ :: s.options }

def withPositional (arg : String) (s : Scan) : Scan :=
  { s with positional := arg :: s.positional }

/-- Whether an argument can be the value of the option before it. -/
def isValue (arg : String) : Bool := arg == "-" || arg.toList.head? != some '-'

def dropEquals : List Char → List Char
  | '=' :: rest => rest
  | cs => cs

/-- What short options that share a dash are, and the one whose value is yet to come. -/
def cluster? (known : List OptionName) : List Char → Option (List Given × Option OptionName)
  | [] => some ([], none)
  | c :: rest => do
    let name ← known.find? fun name => name.short? == some c
    if name.hasValue then
      match rest with
      | [] => return ([], some name)
      | _ => return ([⟨name, String.ofList (dropEquals rest)⟩], none)
    else
      let (given, pending) ← cluster? known rest
      return (⟨name, ""⟩ :: given, pending)

/-- What a long option is, without its dashes: its value, or that the value is yet to come. -/
def long? (known : List OptionName) (cs : List Char) : Option (List Given × Option OptionName) :=
  do
    let word := cs.takeWhile (· ≠ '=')
    let name ← known.find? fun name => name.long.toList == word
    match name.hasValue, cs.dropWhile (· ≠ '=') with
    | true, [] => return ([], some name)
    | true, _ :: value => return ([⟨name, String.ofList value⟩], none)
    | false, [] => return ([⟨name, ""⟩], none)
    | false, _ => none

/-- Reads arguments with the known options. With `stop`, everything after the first positional
argument is left unread and listed as positional. -/
def read? (known : List OptionName) (stop : Bool) : List String → Option Scan
  | [] => some ⟨[], []⟩
  | arg :: rest =>
    if arg = "--" then if stop then none else some ⟨[], rest⟩
    else if isValue arg then
      if stop then some ⟨[], arg :: rest⟩
      else (read? known stop rest).map (withPositional arg)
    else do
      let (given, pending) ← match arg.toList with
        | '-' :: '-' :: cs => long? known cs
        | cs => cluster? known (cs.drop 1)
      let scan ← match pending with
        | none => read? known stop rest
        | some name =>
          match rest with
          | value :: rest =>
            if isValue value then (read? known stop rest).map (withOption name value) else none
          | [] => none
      return { scan with options := given ++ scan.options }

def values (s : Scan) (name : OptionName) : List String :=
  (s.options.filter fun given => given.name = name).map Given.value

/-- Whether no option that may be given once is given more often. -/
def isOnce (s : Scan) : Bool :=
  s.options.all fun given => given.name.isRepeatable || (s.values given.name).length ≤ 1

/-- The value of an option that need not be given. -/
def value? (s : Scan) (name : OptionName) : Option String := (s.values name).head?

def has (s : Scan) (name : OptionName) : Bool := (s.value? name).isSome

end Scan

/-- A command with its options. -/
inductive Action where
  | compile (input resource : String) (explain : Bool)
  | facets (input resource : String) (facets : List String)
  | browse (input resource field : String) (limit preceding : Option Nat) (callNumber : Bool)
  | fields (resource : Option String)
  | init (force : Bool)
  | check
  deriving DecidableEq, Repr

/-- A command line: how much to say, the configuration file to use, and the command. -/
structure Invocation where
  verbosity : Nat
  config : Option String
  action : Action
  deriving DecidableEq, Repr

namespace Invocation

def globalOptions : List OptionName := [.verbose, .config]

def optionsOf? : String → Option (List OptionName)
  | "compile" => some [.resource, .explain]
  | "facets" => some [.resource, .facet]
  | "browse" => some [.resource, .field, .limit, .preceding, .callNumber]
  | "fields" => some [.resource]
  | "init" => some [.force]
  | "check" => some []
  | _ => none

def optionalCount? : Option String → Option (Option Nat)
  | none => some none
  | some s => (Text.count? s.toList).map some

def action? (name : String) (s : Scan) : Option Action :=
  match name, s.positional with
  | "compile", [input] => do
    return .compile input (← s.value? .resource) (s.has .explain)
  | "facets", [input] => do
    let facets := s.values .facet
    if facets.isEmpty then none else return .facets input (← s.value? .resource) facets
  | "browse", [input] => do
    return .browse input (← s.value? .resource) (← s.value? .field)
      (← optionalCount? (s.value? .limit)) (← optionalCount? (s.value? .preceding))
      (s.has .callNumber)
  | "fields", [] => some (.fields (s.value? .resource))
  | "init", [] => some (.init (s.has .force))
  | "check", [] => some .check
  | _, _ => none

def ofArguments? (args : List String) : Option Invocation := do
  let outer ← Scan.read? globalOptions true args
  match outer.positional with
  | [] => none
  | name :: rest =>
    let inner ← Scan.read? (globalOptions ++ (← optionsOf? name)) false rest
    let config := (inner.value? .config) <|> (outer.value? .config)
    let isNonempty := (outer.values .config ++ inner.values .config).all fun path => path ≠ ""
    if outer.isOnce && inner.isOnce && isNonempty then
      let counted := if inner.has .verbose then inner else outer
      return ⟨(counted.values .verbose).length, config, ← action? name inner⟩
    else none

end Invocation

end CatalogSearch.Command
