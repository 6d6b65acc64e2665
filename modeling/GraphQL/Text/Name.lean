/-!
# Names

A name is a letter or underscore followed by letters, digits and underscores,
all of them ASCII.  `IsName` is that grammar.  The gate that every named node
passes, `accepts`, looks at the text up to one line feed at its very end, so it
also lets `"a\n"` through.
-/

namespace GraphQL
namespace Text
namespace Name

/-- The characters that may open a name. -/
def isStart (c : Char) : Bool :=
  ('a' ≤ c && c ≤ 'z') || ('A' ≤ c && c ≤ 'Z') || c = '_'

/-- The characters that may continue a name. -/
def isContinue (c : Char) : Bool :=
  isStart c || ('0' ≤ c && c ≤ '9')

/-- The name grammar, as a test on the whole text. -/
def isName : List Char → Bool
  | [] => false
  | c :: cs => isStart c && cs.all isContinue

/-- The text without one line feed at its end. -/
def dropFinalLineFeed (cs : List Char) : List Char :=
  if cs.getLast? = some '\n' then cs.dropLast else cs

/-- The gate for names: the name grammar up to one final line feed. -/
def accepts (text : String) : Bool :=
  isName (dropFinalLineFeed text.toList)

/-- The name grammar, as a property of a text. -/
def IsName (text : String) : Prop :=
  isName text.toList = true

instance (text : String) : Decidable (IsName text) :=
  inferInstanceAs (Decidable (_ = true))

/-- Words that stand for constants where a value is read. -/
def isReserved (text : String) : Bool :=
  text = "true" || text = "false" || text = "null"

theorem isContinue_of_isStart {c : Char} (start : isStart c = true) :
    isContinue c = true := by
  simp [isContinue, start]

theorem not_isContinue_lineFeed : isContinue '\n' = false := by decide

end Name
end Text
end GraphQL
