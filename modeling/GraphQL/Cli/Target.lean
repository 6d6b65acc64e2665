import GraphQL.Schema.Class
import GraphQL.Text.File

/-!
# Targets

A target names a class by its module.  Modules are known by their full names alone,
so a name with dots is looked for only after the name before its last dot.  Besides
its classes a module has what every module has, none of which is a class of the
caller.
-/

namespace GraphQL
namespace Cli

/-- What a command line can refer to. -/
structure World where
  /-- What there is at a path. -/
  entry : String → Text.File.Entry
  /-- The modules, each with its classes.  The last module of a name counts. -/
  modules : List (String × List Schema.Class)
  /-- The classes of all modules, in the order of their declaration. -/
  classes : List Schema.Class

/-- Why a target is not found. -/
inductive TargetFault
  | malformed (target : String)
  | notImportable (name reason : String)
  | noAttribute (moduleName className : String)
  | relativeImport (name : String)
  deriving DecidableEq, Repr

/-- What a target names. -/
inductive Target
  /-- A class of the caller. -/
  | cls (cls : Schema.Class)
  /-- The class of all modules. -/
  | moduleClass
  /-- Something that is no class. -/
  | other (className : String)

/-! ## Modules -/

/-- The text before the first colon and the text after it, which is empty if there
is no colon. -/
def splitTarget (target : String) : String × String :=
  match target.splitOn ":" with
  | [] => (target, "")
  | moduleName :: rest => (moduleName, ":".intercalate rest)

/-- The classes of a module, if there is one of that name. -/
def classesOf? (world : World) (name : String) : Option (List Schema.Class) :=
  (world.modules.reverse.find? fun entry => entry.1 = name).map (·.2)

/-- Why a module is not found, which is given by the parts of its name from the last
to the first.  Only a package has further modules in it, and there is none. -/
def missing? (world : World) : List String → Option String
  | [] => none
  | part :: parents =>
    let name := ".".intercalate (part :: parents).reverse
    let said := "No module named " ++ Text.Display.text name
    if (classesOf? world name).isSome then none
    else if parents.isEmpty then some said
    else
      match missing? world parents with
      | some reason => some reason
      | none =>
        some (said ++ "; " ++ Text.Display.text (".".intercalate parents.reverse) ++
          " is not a package")

/-! ## Attributes -/

/-- The attributes of a module that are methods bound to it. -/
def methods : List String :=
  ["__init__", "__repr__", "__str__", "__hash__", "__eq__", "__ne__", "__lt__", "__le__", "__gt__",
    "__ge__", "__getattribute__", "__setattr__", "__delattr__"]

/-- The attributes of a module that are functions. -/
def functions : List String :=
  ["__dir__", "__format__", "__reduce__", "__reduce_ex__", "__sizeof__", "__new__",
    "__init_subclass__", "__subclasshook__", "__getstate__"]

/-- What every module has under a name. -/
def attribute? (name : String) : Option Target :=
  if name = "__class__" then some .moduleClass
  else if name = "__name__" then some (.other "str")
  else if ["__doc__", "__loader__", "__package__", "__spec__"].contains name then
    some (.other "NoneType")
  else if name = "__dict__" || name = "__annotations__" then some (.other "dict")
  else if methods.contains name then some (.other "method-wrapper")
  else if functions.contains name then some (.other "builtin_function_or_method")
  else none

/-- What a target names. -/
def findTarget (world : World) (target : String) : Except TargetFault Target :=
  let (moduleName, className) := splitTarget target
  if moduleName = "" || className = "" then .error (.malformed target)
  else if moduleName.startsWith "." then .error (.relativeImport moduleName)
  else
    match missing? world (moduleName.splitOn ".").reverse with
    | some reason => .error (.notImportable moduleName reason)
    | none =>
      match Schema.find? ((classesOf? world moduleName).getD []) className with
      | some cls => .ok (.cls cls)
      | none =>
        match attribute? className with
        | some found => .ok found
        | none => .error (.noAttribute moduleName className)

end Cli
end GraphQL
