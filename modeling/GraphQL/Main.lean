import GraphQL.Cli.Run

/-!
# The program

Reads the files that the command line mentions, runs the command and prints what
comes of it.  No module of classes can be loaded here, so that every class is
missing.
-/

namespace GraphQL
namespace Cli

/-- What there is at a path. -/
def entryOf (path : String) : IO Text.File.Entry := do
  match ← (IO.FS.readBinFile path).toBaseIO with
  | .ok content => return .file content.toList
  | .error (.inappropriateType none _ _) => return .directory
  | .error (.inappropriateType (some _) _ _) => return .throughFile
  | .error _ => return .missing

/-- What there is at some paths, and nothing at all others. -/
def entriesAt (paths : List String) : IO (String → Text.File.Entry) := do
  let entries ← paths.mapM fun path => return (path, ← entryOf path)
  return fun path => (entries.lookup path).getD .missing

end Cli
end GraphQL

/-- Runs the program on a command line. -/
def main (given : List String) : IO UInt32 := do
  let entry ← GraphQL.Cli.entriesAt (GraphQL.Cli.mentioned given)
  let outcome := GraphQL.Cli.run ⟨entry, [], []⟩ given
  IO.print outcome.stdout
  IO.eprint outcome.stderr
  if let some crash := outcome.crash? then
    IO.eprintln crash.message
  return UInt32.ofNat outcome.exit
