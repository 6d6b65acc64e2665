import GraphQL.Text.Display
import GraphQL.Text.Lines
import GraphQL.Text.Utf8

/-!
# Text files

What there is at a path, and the text of a file.  A file holds UTF-8; every end of
a line in it is read as a line feed, and a byte order mark is kept.
-/

namespace GraphQL
namespace Text
namespace File

/-- What there is at a path. -/
inductive Entry
  /-- Nothing. -/
  | missing
  /-- Nothing, since the path leads through a file. -/
  | throughFile
  /-- Nothing, since the path or a step of it is too long. -/
  | tooLong
  /-- Nothing, since the text is no path. -/
  | noPath
  /-- A directory. -/
  | directory
  /-- A file with its content. -/
  | file (content : List UInt8)
  deriving DecidableEq, Repr

/-- Files by place, which is the way there from the root.  Without content there is a
directory.  The last entry of a place counts. -/
abbrev Tree := List (List String × Option (List UInt8))

/-- The steps of a path.  A slash at its end is a step that stays. -/
def steps (path : String) : List String :=
  (path.splitOn "/").filter (· ≠ "") ++ if path.endsWith "/" then ["."] else []

/-- The place that a path within a tree leads to. -/
def place (path : String) : List String :=
  (steps path).foldl (fun place step =>
    if step = "." then place else if step = ".." then place.dropLast else place ++ [step]) []

/-- What there is in a tree at a place. -/
def entryAt (tree : Tree) (place : List String) : Entry :=
  match tree.reverse.find? fun entry => entry.1 = place with
  | some (_, some content) => .file content
  | some (_, none) => .directory
  | none =>
    if place = [] || tree.any fun entry => place.isPrefixOf entry.1 then .directory else .missing

/-- The place that a step leads to.  Only the root of all files is its own parent;
outside of a tree no more is known than that there are directories. -/
def follow (rooted : Bool) (place? : Option (List String)) (step : String) :
    Option (List String) :=
  if step = "." then place?
  else if step = ".." then
    match place? with
    | some [] => if rooted then some [] else none
    | some place => some place.dropLast
    | none => none
  else place?.map (· ++ [step])

/-- The most bytes that a step may have. -/
def longestStep : Nat := 255

/-- The most bytes that a path may have. -/
def longestPath : Nat := 4095

/-- What there is in a tree after steps from a place.  Only from a directory can a
step be taken. -/
def walk (rooted : Bool) (tree : Tree) (place? : Option (List String)) (steps : List String) :
    Entry :=
  let here := (place?.map (entryAt tree)).getD .directory
  match steps with
  | [] => here
  | step :: steps =>
    match here with
    | .directory =>
      if longestStep < step.utf8ByteSize then .tooLong
      else if place?.isNone && step ≠ "." && step ≠ ".." then .missing
      else walk rooted tree (follow rooted place? step) steps
    | .file _ => .throughFile
    | _ => here

/-- Directories that are always there, and the file that is always empty. -/
def system : Tree :=
  [(["dev", "null"], some []), (["tmp"], none), (["etc"], none), (["usr", "bin"], none),
    (["usr", "lib"], none), (["bin"], none), (["lib"], none), (["var"], none), (["home"], none),
    (["root"], none), (["opt"], none), (["proc"], none), (["sys"], none)]

/-- What there is in a tree at a path. -/
def find (tree : Tree) (path : String) : Entry :=
  if path.toList.contains '\x00' then .noPath
  else if path = "" then .missing
  else if longestPath < path.utf8ByteSize then .tooLong
  else if path.startsWith "/" then walk true system (some []) (steps path)
  else walk false tree (some []) (steps path)

/-- Why no text can be read. -/
inductive ReadFault
  | missing (path : String)
  | throughFile (path : String)
  | directory (path : String)
  | tooLong (path : String)
  | noPath
  | notText (error : Utf8.DecodeError)
  deriving DecidableEq, Repr

namespace ReadFault

/-- What is said about a fault. -/
def message : ReadFault → String
  | missing path => "[Errno 2] No such file or directory: " ++ Display.text path
  | throughFile path => "[Errno 20] Not a directory: " ++ Display.text path
  | directory path => "[Errno 21] Is a directory: " ++ Display.text path
  | tooLong path => "[Errno 36] File name too long: " ++ Display.text path
  | noPath => "embedded null byte"
  | notText error => error.message

end ReadFault

/-- The text of a file's content. -/
def decode (content : List UInt8) : Except Utf8.DecodeError String :=
  (Utf8.decode content).map fun text => String.ofList (Lines.unify text.toList)

/-- The text at a path, given what there is. -/
def read (path : String) : Entry → Except ReadFault String
  | .missing => .error (.missing path)
  | .throughFile => .error (.throughFile path)
  | .directory => .error (.directory path)
  | .tooLong => .error (.tooLong path)
  | .noPath => .error .noPath
  | .file content => (decode content).mapError .notText

end File
end Text
end GraphQL
