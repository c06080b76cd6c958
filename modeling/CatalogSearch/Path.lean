/-!
Paths as text, with `/` between names. Empty names and names `.` inside a path change nothing, so
they are passed over when the last name is taken off.
-/

namespace CatalogSearch.Path

/-- A path that starts at the root of the file system. -/
def isAbsolute (path : String) : Bool := path.toList.head? == some '/'

def segments (path : String) : List String := (path.toList.splitOn '/').map String.ofList

def isVoid (segment : String) : Bool := segment == "" || segment == "."

/-- The first segment and the names after it. -/
def names (path : String) : List String :=
  match segments path with
  | [] => []
  | first :: rest => first :: rest.filter fun segment => !isVoid segment

/-- Whether two paths start at the same place and go through the same names. -/
def same (path other : String) : Bool :=
  isAbsolute path == isAbsolute other && names path == names other

def dropVoid (names : List String) : List String := (names.reverse.dropWhile isVoid).reverse

/-- The path without its last name; a root and the empty path have none. -/
def parent? (path : String) : Option String :=
  match segments path with
  | [] => none
  | first :: rest =>
    match dropVoid rest with
    | [] => if first = "" then none else some ""
    | names =>
      match dropVoid names.dropLast with
      | [] => some (if first = "" then "/" else first)
      | names => some ("/".intercalate (first :: names))

/-- A name below a path; an absolute name stands for itself. -/
def join (path name : String) : String :=
  if isAbsolute name || path = "" then name
  else if path.toList.getLast? = some '/' then path ++ name
  else path ++ "/" ++ name

/-- A path and at most so many of the paths that lead to it. -/
def ancestorsWithin : Nat → String → List String
  | 0, path => [path]
  | fuel + 1, path =>
    path :: match parent? path with
      | some parent => ancestorsWithin fuel parent
      | none => []

/-- A path and all paths that lead to it, the path itself first. There are no more of them than the
path has names. -/
def ancestors (path : String) : List String := ancestorsWithin (names path).length path

end CatalogSearch.Path
