import GraphQL.Cli.Run
import GraphQL.Proofs.Source.LineEnds
import Mathlib

/-!
# Comparing files

Files are compared by their texts with line feeds for all line ends, which are equivalent if
and only if the texts as they stand in the files are.  So the exit code tells whether those
texts are equivalent, and texts that cannot be read are refused without a crash.
-/

namespace GraphQL
namespace Source

open Text

variable {expected actual : String}

/-- Two texts are compared by their canonical texts. -/
theorem toOption_equivalent (expected actual : String) :
    (equivalent expected actual).toOption =
      (do return decide ((← (normalize expected).toOption) = (← (normalize actual).toOption))) := by
  rw [equivalent, normalizeBoth]
  cases normalize expected with
  | error error => rfl
  | ok expectedText =>
    cases normalize actual with
    | error error => rfl
    | ok actualText => rfl

theorem eq_ok_iff_toOption
    {ε α : Type}
    {outcome : Except ε α}
    {value : α} :
    outcome = .ok value ↔ outcome.toOption = some value := by
  cases outcome <;> simp [Except.toOption]

/-- Whether texts are equivalent does not show how their lines end. -/
theorem equivalent_unify_iff {answer : Bool} :
    equivalent (String.ofList (Lines.unify expected.toList))
        (String.ofList (Lines.unify actual.toList)) = .ok answer ↔
      equivalent expected actual = .ok answer := by
  rw [eq_ok_iff_toOption, eq_ok_iff_toOption, toOption_equivalent, toOption_equivalent,
    toOption_normalize_unify, toOption_normalize_unify]

end Source

namespace Cli

open Source Text

/-! ## Comparing texts -/

/-- The exit code tells whether two texts are equivalent. -/
theorem compare_outcome (expected actual : String) (verbose : Bool) :
    (compare expected actual verbose).crash? = none ∧
      ((compare expected actual verbose).exit = 0 ∧ equivalent expected actual = .ok true ∨
        (compare expected actual verbose).exit = 1 ∧ equivalent expected actual ≠ .ok true) := by
  unfold compare
  rw [difference?, equivalent]
  cases normalizeBoth expected actual with
  | error unreadable => exact ⟨rfl, .inr ⟨rfl, fun same => by cases same⟩⟩
  | ok texts =>
    obtain ⟨expectedText, actualText⟩ := texts
    by_cases same : expectedText = actualText
    · subst same
      simp [Outcome.printed, Except.map, pure, Except.pure]
    · simp [same, Except.map, pure, Except.pure]

/-! ## The command -/

variable
  {world : World}
  {given : List String}
  {arguments : Arguments}

/-- What follows the name of a command is its command line. -/
theorem run_name_cons (world : World) (command : Command) (given : List String) :
    run world (command.name :: given) = runCommand world command given := by
  have notOption : isOption command.name = false := by
    cases command <;> simp [isOption, Command.name]
  have notDashes : command.name ≠ "--" := by
    cases command <;> simp [Command.name]
  have apart : takeApart [.version, .help] false (command.name :: given) =
      .ok ⟨[], command.name :: given⟩ := by
    simp [takeApart, notOption, notDashes]
  rw [run, if_neg (by simp), apart]
  cases command <;> rfl

/-- A file that is there and holds text is read with line feeds for its line ends. -/
theorem readFile_eq
    {path : String}
    {content : List UInt8}
    {text : String}
    (found : world.entry path = .file content)
    (decoded : Utf8.decode content = .ok text) :
    readFile world path = .ok (String.ofList (Lines.unify text.toList)) := by
  rw [readFile, found, File.read, File.decode, decoded]
  rfl

theorem takeFile_eq
    {path : String}
    {content : List UInt8}
    (found : world.entry path = .file content)
    (parameter : String) :
    takeFile world parameter (some path) = .ok path := by
  rw [takeFile, checkFile, found]

/-- Two files that hold text are compared by their texts with line feeds for line ends. -/
theorem runCheck_eq
    {expectedPath actualPath : String}
    {expectedContent actualContent : List UInt8}
    {expected actual : String}
    (paths : arguments.others = [expectedPath, actualPath])
    (expectedFound : world.entry expectedPath = .file expectedContent)
    (actualFound : world.entry actualPath = .file actualContent)
    (expectedDecoded : Utf8.decode expectedContent = .ok expected)
    (actualDecoded : Utf8.decode actualContent = .ok actual) :
    runCheck world arguments =
      compare (String.ofList (Lines.unify expected.toList))
        (String.ofList (Lines.unify actual.toList))
        (arguments.options.any fun given => given.name = .verbose) := by
  have taken : (do
      let expected ← takeFile world "EXPECTED" arguments.others[0]?
      let actual ← takeFile world "ACTUAL" arguments.others[1]?
      checkNoMore (arguments.others.drop 2)
      return (expected, actual)) = Except.ok (expectedPath, actualPath) := by
    rw [paths]
    change (takeFile world "EXPECTED" (some expectedPath) >>= fun expected =>
      takeFile world "ACTUAL" (some actualPath) >>= fun actual => _) = _
    rw [takeFile_eq expectedFound, takeFile_eq actualFound]
    rfl
  rw [runCheck]
  simp only [taken, readFile_eq expectedFound expectedDecoded,
    readFile_eq actualFound actualDecoded]

/-- Two files whose lines end differently. -/
def twoFiles : World where
  entry path :=
    if path = "e" then .file [0x7b, 0x61, 0x0d, 0x0a, 0x7d]
    else .file [0x7b, 0x23, 0x0d, 0x61, 0x7d]
  modules := []
  classes := []

end Cli
end GraphQL
