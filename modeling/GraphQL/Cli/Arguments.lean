import GraphQL.Diff.Close

/-!
# Arguments of a command

A command line is options and other arguments.  A long option may have its value
attached with an equals sign; short options may be put together, the last one with
its value attached.  Two hyphens end the options.
-/

namespace GraphQL
namespace Cli

/-- The options of all commands. -/
inductive OptionName
  | help
  | version
  | verbose
  | documentation
  | templateDir
  deriving DecidableEq, Repr

namespace OptionName

/-- The long form of an option. -/
def long : OptionName → String
  | help => "--help"
  | version => "--version"
  | verbose => "--verbose"
  | documentation => "--documentation"
  | templateDir => "--template-dir"

/-- The letter of the short form of an option, if it has one. -/
def short? : OptionName → Option Char
  | verbose => some 'v'
  | documentation => some 'd'
  | templateDir => some 't'
  | _ => none

/-- The option has a value. -/
def takesValue : OptionName → Bool
  | templateDir => true
  | _ => false

end OptionName

/-- What is wrong with the options of a command line. -/
inductive OptionFault
  | unknown (form : String) (close : List String)
  | valueWanted (form : String)
  | valueUnwanted (form : String)
  deriving DecidableEq, Repr

namespace OptionFault

/-- What is said about a fault.  Several close options are named in the order of
their letters. -/
def message : OptionFault → String
  | unknown form [] => "No such option: " ++ form
  | unknown form [close] => "No such option: " ++ form ++ " Did you mean " ++ close ++ "?"
  | unknown form close =>
    "No such option: " ++ form ++ " (Possible options: " ++
      ", ".intercalate (close.mergeSort fun a b => a ≤ b) ++ ")"
  | valueWanted form => "Option '" ++ form ++ "' requires an argument."
  | valueUnwanted form => "Option '" ++ form ++ "' does not take a value."

/-- The usage of the command is shown before the message. -/
def showsUsage : OptionFault → Bool
  | unknown .. => true
  | _ => false

end OptionFault

/-- An option as it is given. -/
structure GivenOption where
  /-- The option. -/
  name : OptionName
  /-- Its value, if it has one. -/
  value? : Option String
  deriving DecidableEq, Repr

/-- A command line taken apart. -/
structure Arguments where
  /-- The options, in the order in which they are given. -/
  options : List GivenOption
  /-- The other arguments. -/
  others : List String
  deriving DecidableEq, Repr

namespace Arguments

/-- The command line after one more option. -/
def addOption (option : GivenOption) (rest : Arguments) : Arguments :=
  ⟨option :: rest.options, rest.others⟩

/-- The command line after more options. -/
def addOptions (options : List GivenOption) (rest : Arguments) : Arguments :=
  ⟨options ++ rest.options, rest.others⟩

/-- The command line after one more other argument. -/
def addOther (argument : String) (rest : Arguments) : Arguments :=
  ⟨rest.options, argument :: rest.others⟩

end Arguments

/-- What an argument that gives options amounts to. -/
inductive Reading
  /-- Options that are complete. -/
  | complete (options : List GivenOption)
  /-- Options of which the last takes the next argument for its value. -/
  | pending (options : List GivenOption) (last : OptionName) (form : String)

/-- The form of a short option. -/
def shortForm (letter : Char) : String :=
  String.ofList ['-', letter]

/-- Reads short options that are put together. -/
def readShort (known : List OptionName) : List Char → Except OptionFault Reading
  | [] => .ok (.complete [])
  | letter :: letters =>
    match known.find? fun name => name.short? = some letter with
    | none => .error (.unknown (shortForm letter) [])
    | some name =>
      if name.takesValue then
        if letters.isEmpty then .ok (.pending [] name (shortForm letter))
        else .ok (.complete [⟨name, some (String.ofList letters)⟩])
      else
        match readShort known letters with
        | .error fault => .error fault
        | .ok (.complete options) => .ok (.complete (⟨name, none⟩ :: options))
        | .ok (.pending options last form) => .ok (.pending (⟨name, none⟩ :: options) last form)

/-- The text before the first equals sign, and the text after it if there is
one. -/
def splitValue (argument : String) : String × Option String :=
  match argument.splitOn "=" with
  | [] => (argument, none)
  | [form] => (form, none)
  | form :: rest => (form, some ("=".intercalate rest))

/-- Reads an argument that gives options: a long one, or else short ones unless it
opens with two hyphens. -/
def readOption (known : List OptionName) (argument : String) : Except OptionFault Reading :=
  let (form, value?) := splitValue argument
  match known.find? fun name => name.long = form with
  | some name =>
    match name.takesValue, value? with
    | true, some value => .ok (.complete [⟨name, some value⟩])
    | true, none => .ok (.pending [] name form)
    | false, some _ => .error (.valueUnwanted form)
    | false, none => .ok (.complete [⟨name, none⟩])
  | none =>
    if argument.startsWith "--" then
      .error (.unknown form (Diff.closeWords form (known.map OptionName.long)))
    else readShort known (argument.toList.drop 1)

/-- The argument gives options. -/
def isOption (argument : String) : Bool :=
  argument.startsWith "-" && argument ≠ "-"

/-- Takes a command line apart.  Options are not looked for after another argument
unless they are `interspersed`. -/
def takeApart (known : List OptionName) (interspersed : Bool) :
    List String → Except OptionFault Arguments
  | [] => .ok ⟨[], []⟩
  | argument :: rest =>
    if argument = "--" then .ok ⟨[], rest⟩
    else if isOption argument then
      match readOption known argument with
      | .error fault => .error fault
      | .ok (.complete options) =>
        (takeApart known interspersed rest).map (Arguments.addOptions options)
      | .ok (.pending options last form) =>
        match rest with
        | [] => .error (.valueWanted form)
        | value :: rest =>
          (takeApart known interspersed rest).map
            (Arguments.addOptions (options ++ [⟨last, some value⟩]))
    else if interspersed then
      (takeApart known interspersed rest).map (Arguments.addOther argument)
    else .ok ⟨[], argument :: rest⟩

end Cli
end GraphQL
