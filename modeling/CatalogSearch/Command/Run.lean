import CatalogSearch.Browse.Request
import CatalogSearch.Command.Arguments
import CatalogSearch.Command.Grid
import CatalogSearch.Compiler.Notes
import CatalogSearch.Expression.Json
import CatalogSearch.Facet.Bucket
import CatalogSearch.Settings.Files
import CatalogSearch.Settings.Template
import CatalogSearch.Text.ControlSequence

/-!
The commands. A command is run in its surroundings, the files it can read and the text on its
input, and answers with what it prints, its exit code and the files it writes.
-/

namespace CatalogSearch.Command

/-- What a command sees of the world. -/
structure Surroundings where
  files : FileSystem
  input : String
  cwd : String
  home : Option String

/-- What a command does. -/
structure Outcome where
  exitCode : Nat
  output : String
  errors : String
  written : List (String × String)
  deriving DecidableEq, Repr

namespace Outcome

def success (lines : List String) : Outcome :=
  ⟨0, String.join (lines.map fun line => line ++ "\n"), "", []⟩

/-- The outcome of failing with lines of error text, after printing lines. -/
def failure (printed errors : List String) : Outcome :=
  ⟨1, String.join (printed.map fun line => line ++ "\n"),
    String.join (errors.map fun line => line ++ "\n"), []⟩

/-- Puts what is logged before the errors. -/
def logging (entries : List String) (o : Outcome) : Outcome :=
  { o with errors := String.join entries ++ o.errors }

end Outcome

/-- The levels of log entries, each with the verbosity from which on it is shown. -/
inductive LogLevel where
  | info
  | debug
  deriving DecidableEq, Repr

namespace LogLevel

/-- The verbosity from which on entries of a level are shown. -/
def threshold : LogLevel → Nat
  | info => 2
  | debug => 3

def text : LogLevel → String
  | info => "INFO"
  | debug => "DEBUG"

/-- An entry of the log: a line, in which the text can do nothing to a terminal. A control string
that the text leaves open takes the end of the line with it. -/
def entry (l : LogLevel) (text : String) : String :=
  Text.withoutControls ("[" ++ l.text ++ "] " ++ text ++ "\n")

def entries (l : LogLevel) (verbosity : Nat) (texts : List String) : List String :=
  if l.threshold ≤ verbosity then texts.map l.entry else []

end LogLevel

/-- The settings that a command works with, and the files they come from. -/
structure Context where
  configFiles : List String
  settings : Settings

namespace Context

/-- The context of a command: from the file that the command line names, or else from the files
that count in the working directory. -/
def load (s : Surroundings) (config : Option String) : Except SettingsError Context := do
  let files := match config with
    | some path => [path]
    | none => Settings.discover s.files s.cwd s.home
  return ⟨files, ← Settings.loadFiles s.files files⟩

end Context

def errorLine (message : String) : String := "error: " ++ message

def initAdvice : String := "Run 'shelf init' to create a configuration file."

/-- The expression in a file, or on the input for a dash; or else why there is none. -/
def readExpression (s : Surroundings) (input : String) : Except String Expression :=
  let text := if input = "-" then .ok s.input else s.files input
  match text with
  | .error e => .error ("failed to read " ++ input ++ ": " ++ e.message)
  | .ok text =>
    match Expression.parse? text with
    | some e => .ok e
    | none => .error ("invalid expression tree in " ++ input ++ ": no expression in JSON form")

/-- Runs what needs an expression and the compiler. -/
def withExpression (s : Surroundings) (k : Context) (input : String)
    (run : Compiler → Expression → Outcome) : Outcome :=
  match readExpression s input with
  | .error message => .failure [] [errorLine message]
  | .ok e =>
    match Compiler.ofSettings k.settings with
    | .error error => .failure [] [errorLine error.message]
    | .ok c => run c e

/-- The outcome of printing lines and then a value, or an error. -/
def report {α : Type} (printed : List String) (toJson : α → Json) :
    Except CompileError α → Outcome
  | .ok a => .success (printed ++ [(toJson a).pretty])
  | .error e => .failure printed [errorLine e.message]

def explanation (e : Expression) : List String :=
  ["CQL: " ++ e.text, "", "Tree:", e.outline, "Query:"]

def runCompile (c : Compiler) (verbosity : Nat) (resource : String) (explain : Bool)
    (e : Expression) : Outcome :=
  (report (if explain then explanation e else []) SearchQuery.toJson
      (c.compile resource e)).logging
    (LogLevel.debug.entries verbosity (c.compileNotes resource e))

/-- The command that builds the aggregations of facets for an expression. -/
def runFacets (c : Compiler) (verbosity : Nat) (resource : String) (facets : List String)
    (e : Expression) : Outcome :=
  let search := c.compile resource e
  let notes := c.compileNotes resource e ++
    match search with
    | .ok s => c.catalog.facetNotes resource s.query facets
    | .error _ => []
  let aggregations := do c.catalog.facetAggregations resource (← search).query facets
  (report [] (fun as => .array (Aggregation.listToJson as)) aggregations).logging
    (LogLevel.debug.entries verbosity notes)

/-- The command that recovers a browse context from an expression. -/
def runBrowse (c : Compiler) (verbosity : Nat) (resource : String) (request : BrowseRequest)
    (callNumber : Bool) (e : Expression) : Outcome :=
  let context := do
    let search ← c.compile resource e
    if callNumber then request.callNumberContext c.browse.callNumberRangeOffset search
    else request.context search
  (report [] BrowseContext.toJson context).logging <|
    LogLevel.info.entries verbosity
      ["browsing '" ++ request.field ++ "' with limit " ++ toString request.limit] ++
    LogLevel.debug.entries verbosity (c.compileNotes resource e)

/-- How a table shows the sort settings of a field. -/
def sortLabel (f : Field) : String :=
  match f.sort with
  | none => "-"
  | some s =>
    let target := s.field.getD "(default)"
    match s.layout with
    | .single => target
    | .collection =>
      if s.secondary.isEmpty then target ++ " (collection)"
      else target ++ " (collection, then " ++ ", ".intercalate s.secondary ++ ")"

def fieldRow (f : Field) : List String :=
  [if f.multilang then FieldName.allLanguages f.path else f.path,
   ", ".intercalate (f.capabilities.map Capability.text),
   f.valueType.text,
   f.normalizer.getD "-",
   sortLabel f]

def fieldGrid (r : Resource) : Grid where
  header := ["Field", "Capabilities", "Type", "Normalizer", "Sort"]
  rows := r.fields.values.map fieldRow

/-- A line per entry under a title, if there are entries. -/
def titled {α : Type} (title : String) (line : String → α → String) (t : NameTable α) :
    List String :=
  if t.isEmpty then [] else title :: t.entries.map fun (name, a) => "  " ++ line name a

def resourceLines (r : Resource) : List String :=
  ["Resource: " ++ r.name, (fieldGrid r).text] ++
    titled "Aliases:" (fun name target => name ++ " -> " ++ target) r.aliases ++
    titled "Groups:" (fun group members =>
      group ++ " = [" ++ ", ".intercalate members ++ "]") r.groups ++ [""]

/-- The command that prints the fields of one resource or of all. -/
def runFields (k : Context) : Option String → Outcome
  | some name =>
    match k.settings.catalog.resource? name with
    | some r => .success (resourceLines r)
    | none => .failure [] <|
        errorLine ("resource '" ++ name ++ "' is not defined in configuration") ::
          if k.configFiles.isEmpty then [initAdvice] else []
  | none =>
    if k.settings.catalog.resources.isEmpty then
      .success ["No resources defined.", "", initAdvice]
    else .success (k.settings.catalog.resources.values.flatMap resourceLines)

def resourceSummary (r : Resource) : String :=
  "  " ++ r.name ++ " (" ++ toString r.fields.size ++ " fields, " ++ toString r.aliases.size ++
    " aliases, " ++ toString r.groups.size ++ " groups)"

/-- What to do about warnings: each piece of advice once, in the order of the texts. -/
def hints (ws : List Warning) : List String :=
  (NameTable.ofList (ws.map fun w => (w.hint, ()))).names

def checkLines (k : Context) : List String :=
  let resources := k.settings.catalog.resources
  ["Config files:"] ++ k.configFiles.map (fun path => "  " ++ path) ++ ["", "Resources:"] ++
    (if resources.isEmpty then ["  (none defined)"] else resources.values.map resourceSummary) ++
    [""]

def warningLines (ws : List Warning) : List String :=
  ["Warnings (" ++ toString ws.length ++ "):"] ++ ws.map (fun w => "  - " ++ w.message) ++
    ["", "Hints:"] ++ (hints ws).map fun hint => "  - " ++ hint

/-- The command that checks the configuration; warnings are a failure. -/
def runCheck (k : Context) : Outcome :=
  let title := ["Checking configuration...", ""]
  if k.configFiles.isEmpty then
    .success (title ++ ["No configuration files found.", "", initAdvice])
  else
    match Compiler.ofSettings k.settings with
    | .error e => .failure (title ++ checkLines k) [errorLine e.message]
    | .ok _ =>
      match k.settings.warnings with
      | [] => .success (title ++ checkLines k ++ ["No issues found."])
      | ws => .failure (title ++ checkLines k ++ warningLines ws) []

/-- The command that writes a configuration file to start from. -/
def runInit (s : Surroundings) (force : Bool) : Outcome :=
  let path := Path.join s.cwd Settings.fileName
  if s.files.holds path && !force then
    .failure [] [errorLine ("configuration file already exists: " ++ path),
      "use --force to overwrite"]
  else if s.files.holds path && !s.files.isFile path then
    .failure [] [errorLine ("failed to write " ++ path ++ ": " ++ ReadError.isADirectory.message)]
  else { Outcome.success ["Created " ++ path] with written := [(path, Settings.template)] }

def browseRequest (c : Compiler) (field : String) (limit preceding : Option Nat)
    (e : Expression) : BrowseRequest :=
  ⟨e.text, field, limit.getD c.browse.defaultLimit, preceding⟩

def runIn (s : Surroundings) (k : Context) (verbosity : Nat) : Action → Outcome
  | .compile input resource explain =>
    withExpression s k input fun c e => runCompile c verbosity resource explain e
  | .facets input resource facets =>
    withExpression s k input fun c e => runFacets c verbosity resource facets e
  | .browse input resource field limit preceding callNumber =>
    withExpression s k input fun c e =>
      runBrowse c verbosity resource (browseRequest c field limit preceding e) callNumber e
  | .fields resource => runFields k resource
  | .init force => runInit s force
  | .check => runCheck k

/-- Runs a command. Only the command that writes a configuration file needs none to be sound. -/
def run (s : Surroundings) (i : Invocation) : Outcome :=
  match i.action with
  | .init force => runInit s force
  | action =>
    match Context.load s i.config with
    | .error e => .failure [] [errorLine ("failed to load configuration: " ++ e.message)]
    | .ok k => runIn s k i.verbosity action

def Invocation.readPaths (i : Invocation) (cwd : String) (home : Option String) : List String :=
  let inputs := match i.action with
    | .compile input .. | .facets input .. | .browse input .. => [input]
    | _ => []
  inputs ++ i.config.toList ++ (home.map Settings.globalPath).toList ++ Settings.candidates cwd

def Invocation.readsInput (i : Invocation) : Bool :=
  match i.action with
  | .compile input .. | .facets input .. | .browse input .. => input == "-"
  | _ => false

end CatalogSearch.Command
