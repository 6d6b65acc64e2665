import GraphQL.Cli.Help
import GraphQL.Cli.Target
import GraphQL.Schema.Sdl
import GraphQL.Source.Equivalence
import GraphQL.Text.Alphanumeric

/-!
# Running a command line

What the program does with a command line depends on the files and modules there
are.  `check` compares two files, `normalize` prints one in canonical form, `sdl`
prints the definitions of classes.  A command line is refused with exit code 2, a
text or class with 1.
-/

namespace GraphQL
namespace Cli

/-- A fault that no command expects. -/
inductive Crash
  | unreadable (fault : Text.File.ReadFault)
  | relativeImport (name : String)
  | fault (fault : Fault)

namespace Crash

/-- What is said about a crash. -/
def message : Crash → String
  | unreadable cause => cause.message
  | relativeImport name =>
    "the 'package' argument is required to perform a relative import for " ++
      Text.Display.text name
  | fault cause => cause.message

end Crash

/-- How a run of the program ends. -/
structure Outcome where
  /-- The exit code. -/
  exit : Nat
  /-- What is printed. -/
  stdout : String
  /-- What is printed about errors. -/
  stderr : String
  /-- The fault that ended the run, if none of the commands expected it. -/
  crash? : Option Crash

/-! ## What is printed -/

/-- The text after the sequence that an escape character opens: parameters and a
letter.  Nothing else is such a sequence. -/
def afterSequence? : List Char → Option (List Char)
  | [] => none
  | c :: cs =>
    if c = ';' || c = '?' || c.isDigit then afterSequence? cs
    else if c.isAlpha then some cs
    else none

theorem afterSequence?_length {cs rest : List Char} (h : afterSequence? cs = some rest) :
    rest.length < cs.length := by
  induction cs with
  | nil => simp [afterSequence?] at h
  | cons c cs ih =>
    simp only [afterSequence?] at h
    split at h
    · exact Nat.lt_succ_of_lt (ih h)
    · split at h
      · cases h
        exact Nat.lt_succ_self _
      · cases h

/-- The text without sequences that set colours and the like. -/
def stripStyle (cs : List Char) : List Char :=
  match cs with
  | [] => []
  | '\x1b' :: '[' :: rest =>
    match h : afterSequence? rest with
    | some after =>
      have := afterSequence?_length h
      stripStyle after
    | none => '\x1b' :: stripStyle ('[' :: rest)
  | c :: rest => c :: stripStyle rest
termination_by cs.length
decreasing_by
  all_goals simp_wf
  all_goals omega

/-- The text with a line feed for every carriage return before one. -/
def joinLineEnds : List Char → List Char
  | '\r' :: '\n' :: cs => '\n' :: joinLineEnds cs
  | c :: cs => c :: joinLineEnds cs
  | [] => []

/-- A text as it is printed on a line of its own. -/
def echo (text : String) : String :=
  String.ofList (joinLineEnds (stripStyle (text.toList ++ ['\n'])))

namespace Outcome

/-- The run ends well, with something printed. -/
def printed (text : String) : Outcome := ⟨0, echo text, "", none⟩

/-- The run ends with help or the like, which ends its last line. -/
def shown (text : String) : Outcome := ⟨0, text, "", none⟩

/-- The run ends since something is refused. -/
def refused (text : String) : Outcome := ⟨1, "", echo ("Error: " ++ text), none⟩

/-- The run ends in a crash. -/
def crashed (crash : Crash) : Outcome := ⟨1, "", "", some crash⟩

/-- The run ends since the command line is refused. -/
def misused (command : Option Command) (text : String) : Outcome :=
  ⟨2, "", echo (usage command ++ "\n" ++ helpHint command ++ "\n") ++ echo ("Error: " ++ text),
    none⟩

/-- The run ends since an option is refused. -/
def badOption (command : Option Command) (fault : OptionFault) : Outcome :=
  if fault.showsUsage then misused command fault.message
  else ⟨2, "", echo ("Error: " ++ fault.message), none⟩

end Outcome

/-! ## Paths -/

/-- Why a parameter is not taken. -/
inductive ParameterFault
  | misused (text : String)
  | crash (crash : Crash)

namespace ParameterFault

/-- How a run of a command ends that cannot take a parameter. -/
def outcome (command : Command) : ParameterFault → Outcome
  | misused text => .misused (some command) text
  | crash cause => .crashed cause

end ParameterFault

/-- A path that is of no use. -/
def badPath (place text : String) : ParameterFault :=
  .misused ("Invalid value for " ++ place ++ ": " ++ text)

/-- A path to a file for the parameter at a place. -/
def checkFile (world : World) (place path : String) : Except ParameterFault String :=
  match world.entry path with
  | .file _ => .ok path
  | .noPath => .error (.crash (.unreadable .noPath))
  | .directory =>
    .error (badPath place ("File " ++ Text.Display.text path ++ " is a directory."))
  | _ => .error (badPath place ("File " ++ Text.Display.text path ++ " does not exist."))

/-- A path to a directory for the parameter at a place. -/
def checkDirectory (world : World) (place path : String) : Except ParameterFault Unit :=
  match world.entry path with
  | .directory => .ok ()
  | .noPath => .error (.crash (.unreadable .noPath))
  | .file _ => .error (badPath place ("Directory " ++ Text.Display.text path ++ " is a file."))
  | _ => .error (badPath place ("Directory " ++ Text.Display.text path ++ " does not exist."))

/-- A path to a file for a parameter, if it is given. -/
def takeFile (world : World) (parameter : String) :
    Option String → Except ParameterFault String
  | none => .error (.misused ("Missing argument '" ++ parameter ++ "'."))
  | some path => checkFile world ("'" ++ parameter ++ "'") path

/-- The message about arguments that nothing is done with. -/
def extraArguments : List String → String
  | [argument] => "Got unexpected extra argument (" ++ argument ++ ")"
  | arguments => "Got unexpected extra arguments (" ++ " ".intercalate arguments ++ ")"

/-- Refuses arguments that nothing is done with. -/
def checkNoMore (arguments : List String) : Except ParameterFault Unit :=
  if arguments.isEmpty then .ok () else .error (.misused (extraArguments arguments))

/-- The texts in a command line that a command may take for paths: arguments, and
values that are attached to options. -/
def mentioned (given : List String) : List String :=
  given.flatMap fun argument =>
    if isOption argument then
      (List.range argument.length).map fun n => String.ofList (argument.toList.drop n)
    else [argument]

/-! ## Commands -/

/-- The message about source text that is refused. -/
def syntaxMessage (error : Source.SyntaxError) : String :=
  "Syntax error: " ++ error.message

/-- Compares two texts. -/
def compare (expected actual : String) (verbose : Bool) : Outcome :=
  match Source.difference? expected actual with
  | .error unreadable => .refused (syntaxMessage unreadable.error)
  | .ok none => .printed "Documents are equivalent."
  | .ok (some difference) =>
    ⟨1, "", echo "Documents are NOT equivalent." ++
      (if verbose then echo difference.message else ""), none⟩

/-- Reads a file that is known to be there. -/
def readFile (world : World) (path : String) : Except Text.File.ReadFault String :=
  Text.File.read path (world.entry path)

/-- Runs `check`. -/
def runCheck (world : World) (arguments : Arguments) : Outcome :=
  let taken : Except ParameterFault (String × String) := do
    let expected ← takeFile world "EXPECTED" arguments.others[0]?
    let actual ← takeFile world "ACTUAL" arguments.others[1]?
    checkNoMore (arguments.others.drop 2)
    return (expected, actual)
  match taken with
  | .error fault => fault.outcome .check
  | .ok (expected, actual) =>
    match readFile world expected, readFile world actual with
    | .error fault, _ => .crashed (.unreadable fault)
    | _, .error fault => .crashed (.unreadable fault)
    | .ok expectedText, .ok actualText =>
      compare expectedText actualText (arguments.options.any fun given => given.name = .verbose)

/-- Runs `normalize`. -/
def runNormalize (world : World) (arguments : Arguments) : Outcome :=
  let taken : Except ParameterFault String := do
    let path ← takeFile world "PATH" arguments.others[0]?
    checkNoMore (arguments.others.drop 1)
    return path
  match taken with
  | .error fault => fault.outcome .normalize
  | .ok path =>
    match readFile world path with
    | .error fault => .crashed (.unreadable fault)
    | .ok text =>
      match Source.normalize text with
      | .error error => .refused (syntaxMessage error)
      | .ok normal => .printed normal

/-! ## Classes -/

/-- How a run ends that cannot find what it is to define. -/
def missedTarget : TargetFault → Outcome
  | .malformed target =>
    .misused (some .sdl)
      ("Invalid value: Expected 'module:Class', got " ++ Text.Display.text target)
  | .notImportable name reason =>
    .misused (some .sdl) ("Invalid value: Cannot import " ++ name ++ ": " ++ reason)
  | .noAttribute moduleName className =>
    .misused (some .sdl) ("Invalid value: " ++ moduleName ++ " has no attribute " ++ className)
  | .relativeImport name => .crashed (.relativeImport name)

/-- How a run ends that cannot describe a class. -/
def undescribed : Schema.SchemaFault → Outcome
  | .badDescription fault => .crashed (.fault fault)
  | fault => .refused fault.message

/-- The definition of what a target names, or how the run ends without it. -/
def definition (world : World) (documentation : Bool) : Target → Except Outcome String
  | .cls cls =>
    match Schema.sdl world.classes documentation [cls] with
    | .ok text => .ok text
    | .error fault => .error (undescribed fault)
  | .moduleClass => .error (undescribed (.noFields "module"))
  | .other className => .error (.crashed (.fault (.noPart className "__dict__")))

/-- Prints the definitions of targets, a blank line apart. -/
def define (world : World) (documentation : Bool) (targets : List Target) : Outcome :=
  match targets.mapM (definition world documentation) with
  | .ok texts => .printed ("\n\n".intercalate texts)
  | .error outcome => outcome

/-- The last directory for templates that is given. -/
def templateDir? (arguments : Arguments) : Option String :=
  (arguments.options.reverse.find? fun given => given.name = .templateDir).bind
    GivenOption.value?

/-- Checks the directory for templates, if one is given. -/
def checkTemplates (world : World) (arguments : Arguments) : Except ParameterFault Unit :=
  match templateDir? arguments with
  | some path => checkDirectory world "'--template-dir' / '-t'" path
  | none => .ok ()

/-- Runs `sdl`. -/
def runSdl (world : World) (arguments : Arguments) : Outcome :=
  match checkTemplates world arguments with
  | .error fault => fault.outcome .sdl
  | .ok () =>
    if arguments.others.isEmpty then .misused (some .sdl) "Missing argument 'TARGETS...'."
    else
      match arguments.others.mapM (findTarget world) with
      | .error fault => missedTarget fault
      | .ok targets =>
        define world (arguments.options.any fun given => given.name = .documentation) targets

/-- Runs a command with the arguments after its name. -/
def runCommand (world : World) (command : Command) (given : List String) : Outcome :=
  match takeApart command.options true given with
  | .error fault => .badOption (some command) fault
  | .ok arguments =>
    if arguments.options.any fun option => option.name = .help then .shown (help (some command))
    else
      match command with
      | .check => runCheck world arguments
      | .normalize => runNormalize world arguments
      | .sdl => runSdl world arguments

/-- The name of a command looks like an option. -/
def looksLikeOption (name : String) : Bool :=
  match name.toList with
  | [] => false
  | c :: _ => !Text.Alphanumeric.isAlphanumeric c

/-- Runs the program. -/
def run (world : World) (given : List String) : Outcome :=
  if given.isEmpty then .shown (help none)
  else
    match takeApart [.version, .help] false given with
    | .error fault => .badOption none fault
    | .ok arguments =>
      match arguments.options with
      | ⟨.version, _⟩ :: _ => .shown versionText
      | _ :: _ => .shown (help none)
      | [] =>
        match arguments.others with
        | [] => .misused none "Missing command."
        | name :: rest =>
          match Command.ofName? name with
          | some command => runCommand world command rest
          | none =>
            if looksLikeOption name then .shown (help none)
            else .misused none ("No such command " ++ Text.Display.text name ++ ".")

end Cli
end GraphQL
