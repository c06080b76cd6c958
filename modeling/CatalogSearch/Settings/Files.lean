import CatalogSearch.Settings.Basic

/-!
Where configuration files are found: in the working directory and the directories above it, up to a
file that declares itself the root, and otherwise also in the home directory, if one is known. A
file system is taken as what reading a path in it answers.
-/

namespace CatalogSearch

/-- Why a path could not be read as a file. The last case is that of a file that is there but
cannot be read. -/
inductive ReadError where
  | notFound
  | notADirectory
  | isADirectory
  | nameTooLong
  | unreadable (reason : String)
  deriving DecidableEq, Repr

def ReadError.message : ReadError → String
  | notFound => "No such file or directory (os error 2)"
  | notADirectory => "Not a directory (os error 20)"
  | isADirectory => "Is a directory (os error 21)"
  | nameTooLong => "File name too long (os error 36)"
  | unreadable reason => reason

/-- A file system: the text of the file at a path, or why there is none. -/
abbrev FileSystem := String → Except ReadError String

namespace FileSystem

def isFile (fs : FileSystem) (path : String) : Bool :=
  match fs path with
  | .ok _ | .error (.unreadable _) => true
  | .error _ => false

/-- Whether there is a file or a directory at a path. -/
def holds (fs : FileSystem) (path : String) : Bool :=
  match fs path with
  | .error .notFound | .error .notADirectory | .error .nameTooLong => false
  | _ => true

end FileSystem

namespace Settings

def fileName : String := ".shelf.toml"

/-- The paths at which configuration files are looked for, closest first. -/
def candidates (cwd : String) : List String :=
  (Path.ancestors cwd).map fun directory => Path.join directory fileName

/-- The path of the file that counts everywhere. -/
def globalPath (home : String) : String := Path.join home fileName

/-- Whether a path is that of the file that counts everywhere. Without a home directory there is no
such file. -/
def isGlobal (home : Option String) (path : String) : Bool :=
  home.any fun home => Path.same path (globalPath home)

/-- Whether there is a well-formed file at a path that declares itself the root. -/
def isRoot (fs : FileSystem) (path : String) : Bool :=
  match fs path with
  | .ok text => ((Declared.parse? text).map (·.root)).getD false
  | .error _ => false

/-- The files among candidates up to the first root, and whether there is a root. -/
def localFiles (fs : FileSystem) : List String → List String × Bool
  | [] => ([], false)
  | path :: rest =>
    if !fs.isFile path then localFiles fs rest
    else if isRoot fs path then ([path], true)
    else
      let (files, rooted) := localFiles fs rest
      (path :: files, rooted)

/-- The configuration files that count in a working directory, highest precedence first. -/
def discover (fs : FileSystem) (cwd : String) (home : Option String) : List String :=
  let (files, rooted) := localFiles fs (candidates cwd)
  match home.map globalPath with
  | none => files
  | some path =>
    if !rooted && fs.isFile path && !files.any (Path.same path) then files ++ [path] else files

def readFile (fs : FileSystem) (path : String) : Except SettingsError (String × Declared) :=
  match fs path with
  | .error e => .error (.unreadable path e.message)
  | .ok text => do return (path, ← parseFile path text)

/-- The settings of files, the one of highest precedence first. -/
def loadFiles (fs : FileSystem) (paths : List String) : Except SettingsError Settings := do
  if paths.isEmpty then return standard else merge (← paths.mapM (readFile fs))

/-- The settings that hold in a working directory. -/
def load (fs : FileSystem) (cwd : String) (home : Option String) : Except SettingsError Settings :=
  loadFiles fs (discover fs cwd home)

end Settings

end CatalogSearch
