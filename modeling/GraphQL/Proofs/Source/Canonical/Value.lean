import GraphQL.Proofs.Source.Canonical.Layout
import GraphQL.Proofs.Source.Canonical.Leaf

/-!
# Values and types are told by their canonical texts

A value is a leaf, which is told as a lexeme is, or it opens with a character that no leaf
opens with.  Lists and objects keep what they hold apart by commas and brackets, and a mark
behind a type is seen by what follows the type.
-/

namespace GraphQL
namespace Source

open Text Layout

/-! ## Values -/

namespace Value

/-- The lexeme that the value is written as, if there is just one. -/
def leaf? : Value → Option Lexeme
  | .int text => some (.int text)
  | .float text => some (.float text)
  | .string text block => some (if block then .blockString text else .string text)
  | .boolean value => some (.name (if value then "true" else "false"))
  | .null => some (.name "null")
  | .enum symbol => some (.name symbol)
  | .variable _ | .list _ | .object _ => none

/-- The value that a lexeme stands for on its own. -/
def ofLeaf : Lexeme → Value
  | .int text => .int text
  | .float text => .float text
  | .string text => .string text false
  | .blockString text => .string text true
  | .name word =>
    if word = "true" then .boolean true
    else if word = "false" then .boolean false
    else if word = "null" then .null
    else .enum word
  | .punctuator _ | .endOfText => .null

/-- The canonical text of a field of an object. -/
def printField (field : String × Value) : String :=
  field.1 ++ ": " ++ field.2.print

theorem printItems_eq_map (items : List Value) : printItems items = items.map print := by
  induction items with
  | nil => rfl
  | cons item items inductionHypothesis => rw [printItems, inductionHypothesis, List.map_cons]

theorem printFields_eq_map (fields : List (String × Value)) :
    printFields fields = fields.map printField := by
  induction fields with
  | nil => rfl
  | cons field fields inductionHypothesis =>
    rw [printFields, inductionHypothesis, List.map_cons, printField]

end Value

namespace Canonical

variable {value : Value} {lexeme : Lexeme}

theorem chars_of_leaf? (isLeaf : value.leaf? = some lexeme) :
    chars Value.print value = leafText lexeme := by
  cases value with
  | string text block =>
    cases block
    all_goals
      cases isLeaf
      rfl
  | boolean value =>
    cases value
    all_goals
      cases isLeaf
      rfl
  | int | float | null | enum =>
    cases isLeaf
    rfl
  | _ => cases isLeaf

/-- A value that is one lexeme is known from the lexeme, which is a leaf. -/
theorem ofLeaf_of_leaf?
    (drawn : value.Drawn Lexeme.Genuine)
    (isLeaf : value.leaf? = some lexeme) :
    Value.ofLeaf lexeme = value ∧ IsLeaf lexeme := by
  have isName : Name.IsName "true" ∧ Name.IsName "false" ∧ Name.IsName "null" := by decide
  cases drawn with
  | reference | list | object => cases isLeaf
  | int text isGenuine | float text isGenuine | string text isGenuine
  | blockString text isGenuine =>
    cases isLeaf
    exact ⟨rfl, isGenuine, rfl⟩
  | boolean value =>
    cases value with
    | false =>
      cases isLeaf
      exact ⟨rfl, isName.2.1, rfl⟩
    | true =>
      cases isLeaf
      exact ⟨rfl, isName.1, rfl⟩
  | null =>
    cases isLeaf
    exact ⟨rfl, isName.2.2, rfl⟩
  | enum symbol isGenuine notReserved =>
    cases isLeaf
    simp only [Name.isReserved, Bool.or_eq_false_iff, decide_eq_false_iff_not] at notReserved
    refine ⟨?_, isGenuine, rfl⟩
    simp [Value.ofLeaf, notReserved]

/-- The characters that open a value which is no leaf. -/
def isBracket (c : Char) : Bool :=
  c = '$' || c = '[' || c = '\x7b'

/-- The characters that open a value. -/
def opensValue (c : Char) : Bool :=
  isWordChar c || c = '"' || isBracket c

theorem IsLeaf.exists_cons (isLeaf : IsLeaf lexeme) :
    ∃ c cs, leafText lexeme = c :: cs ∧ (isWordChar c = true ∨ c = '"') := by
  obtain ⟨isWord, -⟩ | ⟨text, rfl⟩ | ⟨text, rfl, -⟩ := isLeaf.cases
  · obtain ⟨c, cs, opens⟩ := List.exists_cons_of_ne_nil isWord.notEmpty
    exact ⟨c, cs, opens, .inl (isWord.chars c (by simp [opens]))⟩
  · obtain ⟨more, opens⟩ := (exists_leafText_eq_quote text).1
    exact ⟨'"', more, opens, .inr rfl⟩
  · obtain ⟨more, opens⟩ := (exists_leafText_eq_quote text).2
    exact ⟨'"', more, opens, .inr rfl⟩

theorem IsLeaf.append_ne_bracket
    (isLeaf : IsLeaf lexeme)
    {c : Char}
    (bracket : isBracket c = true)
    (rest more : List Char) :
    leafText lexeme ++ rest ≠ c :: more := by
  obtain ⟨d, ds, opens, plain⟩ := isLeaf.exists_cons
  rw [opens]
  intro same
  obtain ⟨rfl, -⟩ := List.cons.inj same
  obtain (rfl | rfl) | rfl : (d = '$' ∨ d = '[') ∨ d = '\x7b' := by
    simpa [isBracket] using bracket
  all_goals exact absurd plain (by decide)

/-- A value that is no leaf opens with a bracket or with the sign of a variable. -/
theorem kind_of_leaf?_eq_none (notLeaf : value.leaf? = none) :
    (∃ name, value = .variable name) ∨ (∃ items, value = .list items) ∨
      ∃ fields, value = .object fields := by
  cases value with
  | list items => exact .inr (.inl ⟨items, rfl⟩)
  | object fields => exact .inr (.inr ⟨fields, rfl⟩)
  | int | float | string | boolean | null | enum => cases notLeaf
  | _ name => exact .inl ⟨name, rfl⟩

theorem chars_variable (name : String) :
    chars Value.print (.variable name) = '$' :: name.toList := by
  simp [chars, Value.print]

theorem exists_chars_list (items : List Value) :
    ∃ more, chars Value.print (.list items) = '[' :: more := by
  simp [chars, Value.print]

theorem exists_chars_object (fields : List (String × Value)) :
    ∃ more, chars Value.print (.object fields) = '\x7b' :: more := by
  simp [chars, Value.print]

/-- A value that is no leaf opens with a character that no leaf opens with. -/
theorem exists_chars_bracket (notLeaf : value.leaf? = none) :
    ∃ c cs, chars Value.print value = c :: cs ∧ isBracket c = true := by
  obtain ⟨name, rfl⟩ | ⟨items, rfl⟩ | ⟨fields, rfl⟩ := kind_of_leaf?_eq_none notLeaf
  · exact ⟨_, _, chars_variable name, rfl⟩
  · obtain ⟨more, opens⟩ := exists_chars_list items
    exact ⟨_, more, opens, rfl⟩
  · obtain ⟨more, opens⟩ := exists_chars_object fields
    exact ⟨_, more, opens, rfl⟩

/-- A value opens with a character that no text behind a value opens with. -/
theorem exists_chars_value (drawn : value.Drawn Lexeme.Genuine) :
    ∃ c cs, chars Value.print value = c :: cs ∧ opensValue c = true := by
  cases isLeaf : value.leaf? with
  | some lexeme =>
    obtain ⟨c, cs, opens, plain⟩ := (ofLeaf_of_leaf? drawn isLeaf).2.exists_cons
    refine ⟨c, cs, (chars_of_leaf? isLeaf).trans opens, ?_⟩
    obtain isChar | rfl := plain
    · simp [opensValue, isChar]
    · rfl
  | none =>
    obtain ⟨c, cs, opens, bracket⟩ := exists_chars_bracket isLeaf
    exact ⟨c, cs, opens, by simp [opensValue, bracket]⟩

/-- A value whose text opens with a bracket or with the sign of a variable is of the kind
that the character tells. -/
theorem kind_of_bracket
    (drawn : value.Drawn Lexeme.Genuine)
    {c : Char}
    (bracket : isBracket c = true)
    {left more : List Char}
    (same : c :: more = chars Value.print value ++ left) :
    (c = '$' ∧ ∃ name, value = .variable name) ∨ (c = '[' ∧ ∃ items, value = .list items) ∨
      c = '\x7b' ∧ ∃ fields, value = .object fields := by
  cases isLeaf : value.leaf? with
  | some lexeme =>
    rw [chars_of_leaf? isLeaf] at same
    exact absurd same.symm ((ofLeaf_of_leaf? drawn isLeaf).2.append_ne_bracket bracket _ _)
  | none =>
    obtain ⟨name, rfl⟩ | ⟨items, rfl⟩ | ⟨fields, rfl⟩ := kind_of_leaf?_eq_none isLeaf
    · rw [chars_variable] at same
      exact .inl ⟨(List.cons.inj same).1, name, rfl⟩
    · obtain ⟨rest, opens⟩ := exists_chars_list items
      rw [opens] at same
      exact .inr (.inl ⟨(List.cons.inj same).1, items, rfl⟩)
    · obtain ⟨rest, opens⟩ := exists_chars_object fields
      rw [opens] at same
      exact .inr (.inr ⟨(List.cons.inj same).1, fields, rfl⟩)

theorem chars_value_ne_nil (drawn : value.Drawn Lexeme.Genuine) :
    chars Value.print value ≠ [] := by
  obtain ⟨c, cs, opens, -⟩ := exists_chars_value drawn
  simp [opens]

/-- Texts with commas between them, up to the closing character. -/
def rowTo {α : Type} (close : Char) (write : α → List Char) (values : List α) : List Char :=
  listed [',', ' '] write values ++ [close]

theorem chars_list
    {items : List Value}
    (drawn : ∀ item ∈ items, item.Drawn Lexeme.Genuine) :
    chars Value.print (.list items) = '[' :: rowTo ']' (chars Value.print) items := by
  have joined := toList_join_map (fun item present => chars_value_ne_nil (drawn item present)) ", "
  rw [chars, Value.print, Value.printItems_eq_map, String.toList_append, String.toList_append,
    joined]
  rfl

theorem chars_field :
    chars Value.printField =
      inTurn String.toList fun value => [':', ' '] ++ chars Value.print value := by
  funext field
  simp [chars, Value.printField, inTurn]

theorem chars_object (fields : List (String × Value)) :
    chars Value.print (.object fields) =
      '\x7b' :: rowTo '\x7d' (chars Value.printField) fields := by
  have notEmpty (field : String × Value) (present : field ∈ fields) :
      chars Value.printField field ≠ [] := by
    rw [chars_field]
    simp [inTurn]
  rw [chars, Value.print, Value.printFields_eq_map, String.toList_append, String.toList_append,
    toList_join_map notEmpty]
  rfl

/-- Good values open as values do. -/
def OpensValue {α : Type} (write : α → List Char) (good : α → Prop) : Prop :=
  ∀ value, good value → ∃ c cs, write value = c :: cs ∧ opensValue c = true

/-- Texts with commas between them are told up to the bracket or parenthesis that closes
them. -/
theorem told_row
    {α : Type}
    {write : α → List Char}
    {good : α → Prop}
    {values : List α}
    {close : Char}
    (told : ∀ value ∈ values, Told write good [[',', ' '], [close]] value)
    (areGood : ∀ value ∈ values, good value)
    (opens : OpensValue write good)
    (closes : opensValue close = false)
    (apart : isApart [',', ' '] [[close]] = true)
    (marks : List (List Char)) :
    Told (rowTo close write) (fun values => ∀ value ∈ values, good value) marks values := by
  refine (told_listed told areGood apart fun value isGood more => ?_).closed marks
  obtain ⟨c, cs, opened, isOpening⟩ := opens value isGood
  rw [opened]
  exact not_starts_of_head (by simp [closes]) isOpening (cs ++ more)

theorem opensValue_name
    {text : String}
    (isGenuine : Lexeme.Genuine (.name text)) :
    ∃ c cs, text.toList = c :: cs ∧ opensValue c = true := by
  have isWord := isWord_of_isName isGenuine
  obtain ⟨c, cs, opens⟩ := List.exists_cons_of_ne_nil isWord.notEmpty
  exact ⟨c, cs, opens, by simp [opensValue, isWord.chars c (by simp [opens])]⟩

theorem opensValue_append
    {cs : List Char}
    (opens : ∃ d ds, cs = d :: ds ∧ opensValue d = true)
    (rest : List Char) :
    ∃ d ds, cs ++ rest = d :: ds ∧ opensValue d = true := by
  obtain ⟨d, ds, rfl, isOpening⟩ := opens
  exact ⟨d, ds ++ rest, rfl, isOpening⟩

/-- A value that is one lexeme is told as the lexeme is. -/
theorem told_value_of_leaf?
    {marks : List (List Char)}
    (ends : endWords marks = true)
    (drawn : value.Drawn Lexeme.Genuine)
    (isLeaf : value.leaf? = some lexeme) :
    Told (chars Value.print) (Value.Drawn Lexeme.Genuine) marks value := by
  intro other rest left drawnOther starts startsLeft same
  obtain ⟨known, isGenuine⟩ := ofLeaf_of_leaf? drawn isLeaf
  cases isLeafToo : other.leaf? with
  | some otherLexeme =>
    obtain ⟨knownToo, isGenuineToo⟩ := ofLeaf_of_leaf? drawnOther isLeafToo
    rw [chars_of_leaf? isLeaf, chars_of_leaf? isLeafToo] at same
    obtain ⟨rfl, sameRest⟩ := told_leaf ends isGenuine isGenuineToo starts startsLeft same
    exact ⟨known.symm.trans knownToo, sameRest⟩
  | none =>
    obtain ⟨c, cs, opens, bracket⟩ := exists_chars_bracket isLeafToo
    rw [chars_of_leaf? isLeaf, opens] at same
    exact absurd same (isGenuine.append_ne_bracket bracket _ _)

/-- A value is told by its canonical text where neither a word is carried on nor a quote
follows. -/
theorem told_value
    {marks : List (List Char)}
    (ends : endWords marks = true)
    (drawn : value.Drawn Lexeme.Genuine) :
    Told (chars Value.print) (Value.Drawn Lexeme.Genuine) marks value := by
  induction drawn generalizing marks with
  | int text isGenuine => exact told_value_of_leaf? ends (.int text isGenuine) rfl
  | float text isGenuine => exact told_value_of_leaf? ends (.float text isGenuine) rfl
  | string text isGenuine => exact told_value_of_leaf? ends (.string text isGenuine) rfl
  | blockString text isGenuine =>
    exact told_value_of_leaf? ends (.blockString text isGenuine) rfl
  | boolean value => exact told_value_of_leaf? ends (.boolean value) rfl
  | null => exact told_value_of_leaf? ends .null rfl
  | enum symbol isGenuine notReserved =>
    exact told_value_of_leaf? ends (.enum symbol isGenuine notReserved) rfl
  | reference name isGenuine =>
    intro other rest left drawnOther starts startsLeft same
    rw [chars_variable, List.cons_append] at same
    obtain ⟨otherName, rfl⟩ : ∃ name, other = .variable name := by
      simpa using kind_of_bracket drawnOther rfl same
    cases drawnOther with
    | reference _ isGenuineToo =>
      rw [chars_variable] at same
      obtain ⟨rfl, sameRest⟩ := told_name ends isGenuine isGenuineToo starts startsLeft
        (List.cons.inj same).2
      exact ⟨rfl, sameRest⟩
  | list items areDrawn toldItem =>
    intro other rest left drawnOther starts startsLeft same
    rw [chars_list areDrawn, List.cons_append] at same
    obtain ⟨others, rfl⟩ : ∃ items, other = .list items := by
      simpa using kind_of_bracket drawnOther rfl same
    cases drawnOther with
    | list _ areDrawnToo =>
      rw [chars_list areDrawnToo] at same
      have ends : endWords [[',', ' '], [']']] = true := by decide
      have toldItems := told_row (fun item present => toldItem item present ends) areDrawn
        (fun _ => exists_chars_value) rfl rfl marks
      obtain ⟨rfl, sameRest⟩ := toldItems areDrawnToo starts startsLeft (List.cons.inj same).2
      exact ⟨rfl, sameRest⟩
  | object fields areNames areDrawn toldValue =>
    intro other rest left drawnOther starts startsLeft same
    rw [chars_object, List.cons_append] at same
    obtain ⟨others, rfl⟩ : ∃ fields, other = .object fields := by
      simpa using kind_of_bracket drawnOther rfl same
    cases drawnOther with
    | object _ areNamesToo areDrawnToo =>
      rw [chars_object, chars_field] at same
      have ends : endWords [[',', ' '], ['\x7d']] = true := by decide
      have toldField (field : String × Value) (present : field ∈ fields) :=
        (told_name (by decide) (areNames field present)).inTurn
          (follows_marked [':', ' '] (toldValue field present ends) (areDrawn field present))
      have toldFields := told_row toldField
        (fun field present => ⟨areNames field present, areDrawn field present⟩)
        (fun field isGood => opensValue_append (opensValue_name isGood.1) _) rfl rfl marks
      obtain ⟨rfl, sameRest⟩ := toldFields
        (fun field present => ⟨areNamesToo field present, areDrawnToo field present⟩)
        starts startsLeft (List.cons.inj same).2
      exact ⟨rfl, sameRest⟩

/-! ## Types -/

/-- The type as it is without the mark behind it. -/
def bare : TypeRef → TypeRef
  | .nonNull of => of
  | .named name => .named name
  | .list of => .list of

/-- The type is a genuine one without a mark behind it. -/
structure IsBare (type : TypeRef) : Prop where
  /-- The type is drawn from genuine lexemes. -/
  drawn : type.Drawn Lexeme.Genuine
  /-- There is no mark behind it. -/
  unmarked : type.isNonNull = false

variable {type : TypeRef} {marks : List (List Char)}

theorem isBare_bare (drawn : type.Drawn Lexeme.Genuine) : IsBare (bare type) := by
  cases drawn with
  | named name isGenuine => exact ⟨.named name isGenuine, rfl⟩
  | list of drawn => exact ⟨.list of drawn, rfl⟩
  | nonNull of drawn unmarked => exact ⟨drawn, unmarked⟩

/-- A type is what it is without its mark, and the mark. -/
def typeParts (type : TypeRef) : TypeRef × Bool :=
  (bare type, type.isNonNull)

theorem chars_type (type : TypeRef) :
    chars TypeRef.print type =
      inTurn (chars TypeRef.print) (flag ['!']) (typeParts type) := by
  cases type with
  | nonNull of =>
    rw [chars, TypeRef.print, String.toList_append]
    rfl
  | named | list => exact (List.append_nil _).symm

theorem typeParts_injective : Function.Injective typeParts := by
  intro type other same
  cases type
  all_goals
    cases other
    all_goals simp_all [typeParts, bare, TypeRef.isNonNull]

/-- A type is told if it is told without its mark. -/
theorem told_type_of_bare
    (apart : isApart ['!'] marks = true)
    (drawn : type.Drawn Lexeme.Genuine)
    (told : Told (chars TypeRef.print) IsBare (['!'] :: marks) (bare type)) :
    Told (chars TypeRef.print) (TypeRef.Drawn Lexeme.Genuine) marks type := by
  exact (told.inTurn (follows_flag ['!'] apart _)).of_parts drawn
    typeParts_injective (fun other _ => chars_type other)
    (fun other drawnOther => ⟨isBare_bare drawnOther, trivial⟩)

theorem chars_named (name : String) : chars TypeRef.print (.named name) = name.toList :=
  rfl

theorem chars_listOf (of : TypeRef) :
    chars TypeRef.print (.list of) = '[' :: (chars TypeRef.print of ++ [']']) := by
  simp [chars, TypeRef.print]

/-- A type without its mark is told where a word is not carried on. -/
theorem told_bare
    (ends : endWords marks = true)
    (drawn : type.Drawn Lexeme.Genuine) :
    Told (chars TypeRef.print) IsBare marks (bare type) := by
  induction drawn generalizing marks with
  | named name isGenuine =>
    intro other rest left isBareOther starts startsLeft same
    rw [bare, chars_named] at same
    obtain ⟨drawnOther, unmarked⟩ := isBareOther
    cases drawnOther with
    | named other isGenuineToo =>
      obtain ⟨rfl, sameRest⟩ := told_name ends isGenuine isGenuineToo starts startsLeft same
      exact ⟨rfl, sameRest⟩
    | list of drawn =>
      rw [chars_listOf] at same
      exact absurd same ((isLeaf_name isGenuine).append_ne_bracket rfl _ _)
    | nonNull of => cases unmarked
  | list of drawn toldOf =>
    intro other rest left isBareOther starts startsLeft same
    rw [bare, chars_listOf, List.cons_append] at same
    obtain ⟨drawnOther, unmarked⟩ := isBareOther
    cases drawnOther with
    | named other isGenuineToo =>
      exact absurd same.symm ((isLeaf_name isGenuineToo).append_ne_bracket rfl _ _)
    | list other drawnOther =>
      rw [chars_listOf] at same
      obtain ⟨rfl, sameRest⟩ := (told_type_of_bare rfl drawn (toldOf rfl)).closed marks
        drawnOther starts startsLeft (List.cons.inj same).2
      exact ⟨rfl, sameRest⟩
    | nonNull of => cases unmarked
  | nonNull of drawn unmarked toldOf =>
    have isBare : bare of = of := by
      cases of with
      | nonNull => cases unmarked
      | named | list => rfl
    rw [bare, ← isBare]
    exact toldOf ends

/-- A type is told by its canonical text where neither a word is carried on nor a mark
follows. -/
theorem told_type
    (ends : endWords marks = true)
    (apart : isApart ['!'] marks = true)
    (drawn : type.Drawn Lexeme.Genuine) :
    Told (chars TypeRef.print) (TypeRef.Drawn Lexeme.Genuine) marks type :=
  told_type_of_bare apart drawn (told_bare (endWords_cons rfl ends) drawn)

end Canonical
end Source
end GraphQL
