import CatalogSearch.Settings.Files

/-!
A tree of files held in memory, as a file system for what is run in it.
-/

namespace CatalogSearch

/-- Files by the names that lead to them from the root, and directories that may hold no files. -/
structure FileTree where
  files : List (List String × String)
  directories : List (List String)

namespace FileTree

def isDirectory (t : FileTree) (names : List String) : Bool :=
  names.isEmpty ||
    t.files.any (fun file => names.length < file.1.length && names.isPrefixOf file.1) ||
    t.directories.any fun directory => names.isPrefixOf directory

/-- The length in bytes that a name may have. -/
def nameLimit : Nat := 255

/-- The length in bytes that a path may have. -/
def pathLimit : Nat := 4095

/-- Follows the segments of a path from a place in the tree. A name that is too long is noticed in
the directory that it is looked up in. -/
def walk (t : FileTree) (place : List String) : List String → Except ReadError (List String)
  | [] => .ok place
  | segment :: rest =>
    if t.isDirectory place then
      if Path.isVoid segment then walk t place rest
      else if segment = ".." then walk t place.dropLast rest
      else if nameLimit < segment.utf8ByteSize then .error .nameTooLong
      else walk t (place ++ [segment]) rest
    else if (t.files.lookup place).isSome then .error .notADirectory
    else .error .notFound

/-- The file at a path. A path that does not start at the root is followed from a working
directory, and the empty path leads nowhere. -/
def read (t : FileTree) (cwd : List String) : FileSystem := fun path => do
  if path = "" then throw .notFound
  if pathLimit < path.utf8ByteSize then throw .nameTooLong
  let names ← t.walk (if Path.isAbsolute path then [] else cwd) (Path.segments path)
  match t.files.lookup names with
  | some text => return text
  | none => throw (if t.isDirectory names then .isADirectory else .notFound)

end FileTree

end CatalogSearch
