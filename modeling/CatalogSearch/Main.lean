import CatalogSearch.Command.Run

/-!
The program. The files that a command may read are read first; then the command is run, and what it
prints and writes is printed and written.
-/

namespace CatalogSearch.Command

/-- Why the system could not read a file. -/
def readError : IO.Error → ReadError
  | .noFileOrDirectory .. => .notFound
  | .inappropriateType _ code _ => if code = 21 then .isADirectory else .notADirectory
  | e@(.invalidArgument _ code _) =>
    if code = 36 then .nameTooLong else .unreadable (toString e)
  | e => .unreadable (toString e)

/-- Reads a file, or says why it cannot be read. -/
def readPath (path : String) : IO (Except ReadError String) := do
  try
    return .ok (← IO.FS.readFile path)
  catch e => return .error (readError e)

def perform (i : Invocation) : IO UInt32 := do
  let cwd := (← IO.currentDir).toString
  let home := (← IO.getEnv "HOME").filter fun home => home ≠ ""
  let contents ← (i.readPaths cwd home).mapM fun path => do return (path, ← readPath path)
  let input ← if i.readsInput then (← IO.getStdin).readToEnd else pure ""
  let files : FileSystem := fun path => (contents.lookup path).getD (.error .notFound)
  let outcome := run ⟨files, input, cwd, home⟩ i
  for (path, text) in outcome.written do
    IO.FS.writeFile path text
  IO.print outcome.output
  IO.eprint outcome.errors
  return outcome.exitCode.toUInt32

end CatalogSearch.Command

/-- The entry point; arguments that are no command line end it with exit code 2. -/
def main (args : List String) : IO UInt32 :=
  match CatalogSearch.Command.Invocation.ofArguments? args with
  | some i => CatalogSearch.Command.perform i
  | none => do
    IO.eprintln "usage: shelf [-v] [--config FILE] compile|facets|browse|fields|init|check ..."
    return 2
