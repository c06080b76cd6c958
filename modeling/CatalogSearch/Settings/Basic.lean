import CatalogSearch.Catalog.Warning
import CatalogSearch.Path
import CatalogSearch.Settings.Declared

/-!
The settings that come out of configuration files. Files are taken with the highest precedence
first: each browse setting comes from the first file that has it, and each resource from the first
file that declares it, as a whole.
-/

namespace CatalogSearch

/-- Why settings could not be had from configuration files. -/
inductive SettingsError where
  | unreadable (path reason : String)
  | malformed (path : String)
  | emptyGroup (resource group : String)
  deriving DecidableEq, Repr

def SettingsError.message : SettingsError → String
  | unreadable path reason => "failed to read config file " ++ path ++ ": " ++ reason
  | malformed path => "failed to parse config file " ++ path ++ ": TOML parse error"
  | emptyGroup resource group =>
    "group '" ++ group ++ "' of resource '" ++ resource ++ "' has no member fields"

/-- The settings of browsing: the size of a page if a request has none, and how far from its anchor
a range of call numbers ends. -/
structure BrowseSettings where
  defaultLimit : Nat
  callNumberRangeOffset : Nat
  deriving DecidableEq, Repr

/-- The browse settings that hold where no file says otherwise. -/
def BrowseSettings.standard : BrowseSettings := ⟨100, 100000000000000⟩

/-- The settings of the program, and the directory of the file with the highest precedence. -/
structure Settings where
  browse : BrowseSettings
  catalog : Catalog
  root : Option String
  deriving DecidableEq, Repr

def Settings.standard : Settings := ⟨.standard, ⟨.empty⟩, none⟩

/-- Browse settings with those of a file in the place of the ones that it has. -/
def Declared.overBrowse (d : Declared) (below : BrowseSettings) : BrowseSettings where
  defaultLimit := d.defaultLimit.getD below.defaultLimit
  callNumberRangeOffset := d.callNumberRangeOffset.getD below.callNumberRangeOffset

/-- The field that a declaration describes: its capabilities are ordered and without repetition. -/
def DeclaredField.toField (path : String) (f : DeclaredField) : Field where
  path := path
  capabilities := Capability.all.filter fun c => f.capabilities.contains c
  multilang := f.multilang
  normalizer := f.normalizer
  valueType := f.valueType
  sort := f.sort

/-- The resource that a declaration describes. A group has to have members. -/
def DeclaredResource.toResource (name : String) (r : DeclaredResource) :
    Except SettingsError Resource :=
  match r.groups.find? fun group => group.2.isEmpty with
  | some (group, _) => .error (.emptyGroup name group)
  | none => .ok {
      name := name
      aliases := .ofList r.aliases
      groups := .ofList r.groups
      fields := .ofList (r.fields.map fun (path, f) => (path, f.toField path)) }

namespace Settings

/-- The first declaration of each resource, given the names that files before have declared. -/
def firstDeclarations (seen : List String) :
    List (String × DeclaredResource) → List (String × DeclaredResource)
  | [] => []
  | (name, r) :: rest =>
    if seen.contains name then firstDeclarations seen rest
    else (name, r) :: firstDeclarations (name :: seen) rest

/-- The browse settings of files: from the file of lowest precedence upwards, each stands over those
below it. -/
def mergeBrowse (files : List Declared) : BrowseSettings :=
  files.foldr Declared.overBrowse .standard

/-- The resources of files, each from the first file that declares it. -/
def mergeResources (files : List Declared) : Except SettingsError Catalog := do
  let resources ← (firstDeclarations [] (files.flatMap (·.resources))).mapM fun (name, r) => do
    return (name, ← r.toResource name)
  return ⟨.ofList resources⟩

/-- The settings of files with their paths, the one of highest precedence first. -/
def merge (files : List (String × Declared)) : Except SettingsError Settings := do
  return {
    browse := mergeBrowse (files.map Prod.snd)
    catalog := ← mergeResources (files.map Prod.snd)
    root := files.head?.bind fun file => Path.parent? file.1 }

def parseFile (path text : String) : Except SettingsError Declared :=
  match Declared.parse? text with
  | some d => .ok d
  | none => .error (.malformed path)

/-- The settings of a text that comes from no file. -/
def ofText (text : String) : Except SettingsError Settings := do
  let d ← parseFile "<inline>" text
  return { ← merge [("<inline>", d)] with root := none }

def warnings (s : Settings) : List Warning := s.catalog.warnings

end Settings

end CatalogSearch
