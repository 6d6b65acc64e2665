import GraphQL.Proofs.Source.Spelling
import GraphQL.Text.Block

/-!
# Block strings on one line

A text that is put between triple quotes is read back as the value of a block string with
that raw text.  Groups of three quotes in the text are escaped, so the first three
unescaped quotes are the closing ones.  A quote at the end of the text is kept apart from
them by a space, and that space stays in the value.  A backslash at the end is not kept
apart: it escapes the closing quotes, and the block string goes on behind them.
-/

namespace GraphQL
namespace Text
namespace Block

open Source

/-! ## Quotes -/

/-- The text with a space behind a quote at its end. -/
def spaced (cs : List Char) : List Char :=
  if cs.getLast? = some '"' then cs ++ [' '] else cs

theorem getLast?_escape (cs : List Char) : (escape cs).getLast? = cs.getLast? := by
  fun_induction escape cs with
  | case1 cs escaped => simp [List.getLast?_cons, escaped]
  | case2 c cs _ escaped => simp [List.getLast?_cons, escaped]
  | case3 => rfl

/-- A character that is no quote is not escaped with what stands before it. -/
theorem escape_append_singleton
    {last : Char}
    (notQuote : last ≠ '"')
    (cs : List Char) :
    escape (cs ++ [last]) = escape cs ++ [last] := by
  fun_induction escape cs with
  | case1 cs escaped => simp [escape, escaped]
  | case2 c cs other escaped =>
    rw [List.cons_append, escape, escaped, List.cons_append]
    intro more isQuote begins
    match cs with
    | [] => exact notQuote (List.cons.inj begins).1
    | [d] =>
      obtain ⟨-, rest⟩ := List.cons.inj begins
      exact notQuote (List.cons.inj rest).1
    | d :: e :: ds =>
      simp only [List.cons_append, List.cons.injEq] at begins
      exact other ds isQuote (by rw [begins.1, begins.2.1])
  | case3 => simp [escape]

theorem toList_inline (text : String) :
    (inline text).toList = escape (spaced text.toList) := by
  rw [inline, String.toList_ofList, getLast?_escape, spaced]
  split
  case isTrue => rw [escape_append_singleton (by decide)]
  case isFalse => rfl

/-- A text in triple quotes, and what follows. -/
theorem toList_enclosed (text : String) (rest : List Char) :
    ("\"\"\"" ++ inline text ++ "\"\"\"").toList ++ rest =
      '"' :: '"' :: '"' :: (escape (spaced text.toList) ++ '"' :: '"' :: '"' :: rest) := by
  simp [toList_inline]

/-- If an escaped text opens with a quote, then so does the text, and that quote is not
escaped. -/
theorem exists_of_escape_append
    {cs tail more : List Char}
    (begins : escape cs ++ tail = '"' :: more) :
    cs = [] ∨ ∃ ds, cs = '"' :: ds ∧ escape ds ++ tail = more ∧
      escape cs = '"' :: escape ds := by
  cases cs with
  | nil => exact .inl rfl
  | cons c cs =>
    right
    rw [escape.eq_def] at begins
    split at begins
    case h_1 => simp at begins
    case h_3 same => cases same
    case h_2 d ds notGroup same =>
      obtain ⟨rfl, rfl⟩ := List.cons.inj same
      obtain ⟨rfl, rest⟩ := List.cons.inj begins
      exact ⟨cs, rfl, rest, escape.eq_2 _ _ notGroup⟩

theorem getLast?_ne_of_cons
    {c d : Char}
    {cs : List Char}
    (other : (c :: cs).getLast? ≠ some d) :
    cs.getLast? ≠ some d := by
  intro last
  rw [List.getLast?_cons, last] at other
  exact other rfl

/-- The last of several items is the last of those after the first. -/
theorem exists_of_cons_eq_append_singleton
    {α : Type}
    {first last : α}
    {rest items : List α}
    (split : first :: rest = items ++ [last])
    (more : rest ≠ []) :
    ∃ others, items = first :: others ∧ rest = others ++ [last] := by
  cases items with
  | nil => exact absurd (List.cons.inj split).2 more
  | cons item items =>
    obtain ⟨rfl, rfl⟩ := List.cons.inj split
    exact ⟨items, rfl, rfl⟩

/-- The first character of an escaped text, which is not escaped with what follows, is read
by itself: neither can the closing quotes behind the text end the block string there, unless
the text ends with a quote, nor can a backslash escape them, unless it is the whole text. -/
theorem blockBody_escape_cons
    {c : Char}
    {cs : List Char}
    (notGroup : ∀ ds, c = '"' → cs = '"' :: '"' :: ds → False)
    (noQuote : (c :: cs).getLast? ≠ some '"')
    (notLast : c = '\\' → cs ≠ [])
    (rest : List Char) :
    Lexer.blockBody (c :: (escape cs ++ '"' :: '"' :: '"' :: rest)) =
      (do
        let (raw, left) ← Lexer.blockBody (escape cs ++ '"' :: '"' :: '"' :: rest)
        return (c :: raw, left)) := by
  rw [Lexer.blockBody]
  · intro more isQuote begins
    subst isQuote
    rcases exists_of_escape_append begins with rfl | ⟨ds, rfl, begins, -⟩
    · exact noQuote rfl
    · rcases exists_of_escape_append begins with rfl | ⟨es, rfl, -⟩
      · exact noQuote rfl
      · exact notGroup es rfl rfl
  · intro more isBackslash begins
    rcases exists_of_escape_append begins with rfl | ⟨ds, rfl, begins, unescaped⟩
    · exact notLast isBackslash rfl
    · rcases exists_of_escape_append begins with rfl | ⟨es, rfl, begins, -⟩
      · exact noQuote rfl
      · rcases exists_of_escape_append begins with rfl | ⟨fs, rfl, -⟩
        · exact noQuote rfl
        · simp [escape] at unescaped

/-- The raw text of an escaped text before closing quotes is the text. -/
theorem blockBody_escape
    {cs : List Char}
    (noQuote : cs.getLast? ≠ some '"')
    (noBackslash : cs.getLast? ≠ some '\\')
    (rest : List Char) :
    Lexer.blockBody (escape cs ++ '"' :: '"' :: '"' :: rest) = .ok (cs, rest) := by
  fun_induction escape cs with
  | case1 cs read =>
    have readRest := read
      (getLast?_ne_of_cons (getLast?_ne_of_cons (getLast?_ne_of_cons noQuote)))
      (getLast?_ne_of_cons (getLast?_ne_of_cons (getLast?_ne_of_cons noBackslash)))
    simp only [List.cons_append]
    rw [Lexer.blockBody, readRest]
    rfl
  | case2 c cs notGroup read =>
    have readRest := read (getLast?_ne_of_cons noQuote) (getLast?_ne_of_cons noBackslash)
    have notLast : c = '\\' → cs ≠ [] := by
      rintro rfl rfl
      exact noBackslash rfl
    rw [List.cons_append, blockBody_escape_cons notGroup noQuote notLast, readRest]
    rfl
  | case3 => rfl

/-- A text that ends with a backslash escapes the closing quotes behind it.  They belong to
the raw text then, which goes on with what follows them. -/
theorem blockBody_escape_of_backslash
    {cs front : List Char}
    (split : cs = front ++ ['\\'])
    (rest : List Char) :
    Lexer.blockBody (escape cs ++ '"' :: '"' :: '"' :: rest) =
      (do
        let (raw, left) ← Lexer.blockBody rest
        return (front ++ '"' :: '"' :: '"' :: raw, left)) := by
  have shorter {c : Char} {cs front : List Char} (split : c :: cs = front ++ ['\\'])
      (more : cs ≠ []) : ∃ others, front = c :: others ∧ cs = others ++ ['\\'] :=
    exists_of_cons_eq_append_singleton split more
  fun_induction escape cs generalizing front with
  | case1 cs read =>
    obtain ⟨_, rfl, splitAfterOne⟩ := shorter split (by simp)
    obtain ⟨_, rfl, splitAfterTwo⟩ := shorter splitAfterOne (by simp)
    have more : cs ≠ [] := by
      rintro rfl
      simp [List.singleton_eq_append_iff] at splitAfterTwo
    obtain ⟨_, rfl, splitRest⟩ := shorter splitAfterTwo more
    simp only [List.cons_append]
    rw [Lexer.blockBody, read splitRest]
    cases Lexer.blockBody rest <;> rfl
  | case2 c cs notGroup read =>
    by_cases more : cs = []
    · subst more
      obtain ⟨rfl, rfl⟩ : front = [] ∧ '\\' = c := by
        simpa [List.singleton_eq_append_iff] using split
      simp only [escape, List.cons_append, List.nil_append]
      rw [Lexer.blockBody]
    · obtain ⟨others, rfl, splitRest⟩ := shorter split more
      have noQuote : (c :: cs).getLast? ≠ some '"' := by
        rw [split, List.getLast?_concat]
        decide
      rw [List.cons_append, blockBody_escape_cons notGroup noQuote fun _ => more, read splitRest]
      cases Lexer.blockBody rest <;> rfl
  | case3 => simp at split

/-- A text in triple quotes is read as the block string with the text for its raw text,
with a space behind a quote at its end, and nothing of what follows belongs to it. -/
theorem lexeme_inline
    {text : String}
    (noBackslash : text.toList.getLast? ≠ some '\\')
    (rest : List Char) :
    Lexer.lexeme (("\"\"\"" ++ inline text ++ "\"\"\"").toList ++ rest) =
      .ok (.blockString (String.ofList (value (spaced text.toList))), rest) := by
  have noQuote : (spaced text.toList).getLast? ≠ some '"' := by
    rw [spaced]
    split
    case isTrue => simp
    case isFalse isOther => exact isOther
  have noBackslashEither : (spaced text.toList).getLast? ≠ some '\\' := by
    rw [spaced]
    split
    case isTrue => simp
    case isFalse => exact noBackslash
  rw [toList_enclosed, Lexer.lexeme, blockBody_escape noQuote noBackslashEither]
  rfl

/-- A text in triple quotes stands as the block string with the text for its raw text,
whatever follows. -/
theorem stands_inline
    {text : String}
    (noBackslash : text.toList.getLast? ≠ some '\\') :
    Stands ("\"\"\"" ++ inline text ++ "\"\"\"")
      (.of [.blockString (String.ofList (value (spaced text.toList)))]) := by
  intro rest
  refine lexed_of_lexeme ?_ (lexeme_inline noBackslash rest) (by simp)
  rw [toList_enclosed]
  rfl

/-- Where a text in triple quotes ends as a token.  Unless the text ends with a backslash,
the token starts at the first quote and ends with the last of the closing quotes, whatever
follows, and its value is that of the text as a block string.  A backslash at the end of
the text takes the closing quotes into the block string: it goes on in what follows, and so
it never ends with them. -/
theorem tokenize_inline (text rest : String) :
    let source := "\"\"\"" ++ inline text ++ "\"\"\"" ++ rest
    let found := Lexeme.blockString (String.ofList (value (spaced text.toList)))
    (Lexer.lexeme source.toList = .ok (found, rest.toList) ↔
      text.toList.getLast? ≠ some '\\') ∧
    (text.toList.getLast? ≠ some '\\' →
      tokenize source =
        (Tokens.ofChars source.toList.length source.toList.length rest.toList).cons ⟨found, 0⟩) ∧
    ∀ front, text.toList = front ++ ['\\'] →
      Lexer.lexeme source.toList =
        (do
          let (raw, left) ← Lexer.blockBody rest.toList
          return (.blockString (String.ofList (value (front ++ '"' :: '"' :: '"' :: raw))),
            left)) := by
  intro source found
  have chars : source.toList =
      ("\"\"\"" ++ inline text ++ "\"\"\"").toList ++ rest.toList := String.toList_append
  have taken : ∀ front, text.toList = front ++ ['\\'] →
      Lexer.lexeme source.toList =
        (do
          let (raw, left) ← Lexer.blockBody rest.toList
          return (.blockString (String.ofList (value (front ++ '"' :: '"' :: '"' :: raw))),
            left)) := by
    intro front split
    have unspaced : spaced text.toList = text.toList := by
      rw [spaced, split, List.getLast?_concat]
      rfl
    rw [chars, toList_enclosed, unspaced, Lexer.lexeme, blockBody_escape_of_backslash split]
    cases Lexer.blockBody rest.toList <;> rfl
  refine ⟨⟨fun read noRest => ?_, fun noBackslash => ?_⟩, fun noBackslash => ?_, taken⟩
  · obtain ⟨front, split⟩ := List.getLast?_eq_some_iff.mp noRest
    rw [taken front split] at read
    cases body : Lexer.blockBody rest.toList with
    | error stuck => simp [body] at read
    | ok parts =>
      obtain ⟨raw, left⟩ := parts
      have shorter := Lexer.blockBody_length body
      rw [body] at read
      obtain ⟨-, rfl⟩ := Prod.mk.inj (Except.ok.inj read)
      omega
  · rw [chars]
    exact lexeme_inline noBackslash rest.toList
  · have read := lexeme_inline noBackslash rest.toList
    rw [← chars] at read
    have front : Lexer.skipIgnored false source.toList = source.toList := by
      rw [chars, toList_enclosed]
      rfl
    rw [tokenize, Tokens.ofChars, front, read]
    simp [found]

/-- A description that ends with a backslash takes in the rest of its schema, where no
further quotes end it. -/
theorem tokenize_inline_backslash :
    Lexer.lexeme ("\"\"\"" ++ inline "a\\" ++ "\"\"\"" ++ "\ntype T").toList =
      .error ⟨.unterminatedString, []⟩ := by
  obtain ⟨-, -, taken⟩ := tokenize_inline "a\\" "\ntype T"
  exact taken ['a'] rfl

/-! ## A space behind the last line -/

/-- A character that ends no line goes to the end of the last line. -/
theorem source_append_singleton
    {c : Char}
    (noLineFeed : c ≠ '\n')
    (noReturn : c ≠ '\r')
    {cs : List Char}
    {lines : List (List Char)}
    {last : List Char}
    (split : Lines.source cs = lines ++ [last]) :
    Lines.source (cs ++ [c]) = lines ++ [last ++ [c]] := by
  have notPairAfter (d : Char) (ds : List Char)
      (notPair : ∀ more, d = '\r' → ds = '\n' :: more → False) (more : List Char)
      (isReturn : d = '\r') (begins : ds ++ [c] = '\n' :: more) : False := by
    cases ds with
    | nil => exact noLineFeed (List.cons.inj begins).1
    | cons e es => exact notPair es isReturn (by rw [(List.cons.inj begins).1])
  fun_induction Lines.source cs generalizing lines last with
  | case1 =>
    obtain ⟨rfl, same⟩ | ⟨-, none⟩ := List.singleton_eq_append_iff.mp split
    · obtain rfl := List.singleton_inj.mp same
      simp [Lines.source, noLineFeed, noReturn]
    · cases none
  | case2 cs inductionHypothesis =>
    obtain ⟨others, rfl, rest⟩ :=
      exists_of_cons_eq_append_singleton split (Lines.source_ne_nil cs)
    simp [Lines.source, inductionHypothesis rest]
  | case3 d cs notPair isEnd inductionHypothesis =>
    obtain ⟨others, rfl, rest⟩ :=
      exists_of_cons_eq_append_singleton split (Lines.source_ne_nil cs)
    rw [List.cons_append, Lines.source.eq_3 _ _ (notPairAfter d cs notPair), if_pos isEnd,
      inductionHypothesis rest, List.cons_append]
  | case4 d cs notPair notEnd none => exact absurd none (Lines.source_ne_nil cs)
  | case5 d cs notPair notEnd line more found inductionHypothesis =>
    rw [List.cons_append, Lines.source.eq_3 _ _ (notPairAfter d cs notPair), if_neg notEnd]
    cases more with
    | nil =>
      obtain ⟨rfl, same⟩ | ⟨-, none⟩ := List.singleton_eq_append_iff.mp split
      · obtain rfl := List.singleton_inj.mp same
        have grown := @inductionHypothesis [] _ found
        rw [grown]
        rfl
      · cases none
    | cons next more =>
      obtain ⟨others, rfl, rest⟩ := exists_of_cons_eq_append_singleton split (by simp)
      have grown := @inductionHypothesis (line :: others) last (found.trans (by rw [rest]; rfl))
      rw [grown]
      rfl

theorem joinLines_append_singleton (lines : List (List Char)) (last more : List Char) :
    joinLines (lines ++ [last ++ more]) = joinLines (lines ++ [last]) ++ more := by
  induction lines with
  | nil => rfl
  | cons line lines inductionHypothesis =>
    cases lines with
    | nil => simp [joinLines]
    | cons next lines =>
      simp only [List.cons_append, joinLines] at inductionHypothesis ⊢
      simp [inductionHypothesis]

/-- Nothing is trimmed behind a last line that is not blank. -/
theorem trimBlank_append_singleton
    {last : List Char}
    (notBlank : isBlankLine last = false)
    (lines : List (List Char)) :
    trimBlank (lines ++ [last]) = lines.dropWhile isBlankLine ++ [last] := by
  have front : (lines ++ [last]).dropWhile isBlankLine =
      lines.dropWhile isBlankLine ++ [last] := by
    rw [List.dropWhile_append]
    split
    case isTrue allBlank =>
      rw [List.isEmpty_iff] at allBlank
      simp [allBlank, notBlank]
    case isFalse => rfl
  rw [trimBlank, front, List.reverse_append, List.reverse_singleton, List.singleton_append,
    List.dropWhile_cons_of_neg (by simp [notBlank]), List.reverse_cons, List.reverse_reverse]

/-- A line with content is not made blank by what is put behind it. -/
theorem isBlankLine_append
    {line : List Char}
    (notBlank : isBlankLine line = false)
    (more : List Char) :
    isBlankLine (line ++ more) = false := by
  rw [isBlankLine, List.all_append, ← isBlankLine, notBlank, Bool.false_and]

theorem indentation_append_singleton
    {line : List Char}
    (notBlank : isBlankLine line = false)
    (c : Char) :
    indentation (line ++ [c]) = indentation line := by
  rw [indentation, indentation, List.takeWhile_append, if_neg]
  intro allBlank
  have same : line.takeWhile isBlankChar = line :=
    (List.takeWhile_prefix _).eq_of_length allBlank
  have blank : isBlankLine line = true := same ▸ List.all_takeWhile
  rw [notBlank] at blank
  cases blank

/-- The indentation that lines share with a last one depends on its indentation only. -/
theorem exists_commonIndentation (last : List Char) (lines : List (List Char)) :
    ∃ width ≤ indentation last, ∀ line, isBlankLine line = false →
      indentation line = indentation last →
        commonIndentation (lines ++ [line]) = some width := by
  induction lines with
  | nil =>
    refine ⟨indentation last, Nat.le_refl _, fun line isContent same => ?_⟩
    simp [commonIndentation, isContent, same]
  | cons first lines inductionHypothesis =>
    obtain ⟨width, fits, shared⟩ := inductionHypothesis
    by_cases isBlank : isBlankLine first = true
    · refine ⟨width, fits, fun line isContent same => ?_⟩
      rw [List.cons_append, commonIndentation, if_pos isBlank, shared line isContent same]
    · refine ⟨min (indentation first) width, by omega, fun line isContent same => ?_⟩
      rw [List.cons_append, commonIndentation, if_neg isBlank, shared line isContent same]

/-- A line with content keeps it when no more than its indentation is removed. -/
theorem isBlankLine_drop
    {line : List Char}
    (notBlank : isBlankLine line = false)
    {width : Nat}
    (fits : width ≤ indentation line) :
    isBlankLine (line.drop width) = false := by
  obtain ⟨c, present, content⟩ := List.all_eq_false.mp notBlank
  refine List.all_eq_false.mpr ⟨c, ?_, content⟩
  rw [← List.take_append_drop width line, List.mem_append] at present
  refine present.resolve_left fun taken => content ?_
  have within : line.take width <+: line.takeWhile isBlankChar :=
    List.prefix_of_prefix_length_le (List.take_prefix _ _) (List.takeWhile_prefix _)
      (Nat.le_trans (List.length_take_le _ _) fits)
  exact List.all_eq_true.mp List.all_takeWhile c (within.subset taken)

/-- A space behind the last of some lines, which is not blank, stays there when their
indentation is removed. -/
theorem exists_unindent
    {last : List Char}
    (notBlank : isBlankLine last = false)
    (lines : List (List Char)) :
    ∃ others rest, isBlankLine rest = false ∧
      unindent (lines ++ [last]) = others ++ [rest] ∧
        unindent (lines ++ [last ++ [' ']]) = others ++ [rest ++ [' ']] := by
  obtain ⟨width, fits, shared⟩ := exists_commonIndentation last lines
  have shorter : width ≤ last.length :=
    Nat.le_trans fits (List.takeWhile_prefix _).length_le
  refine ⟨lines.map (List.drop width), last.drop width, isBlankLine_drop notBlank fits, ?_, ?_⟩
  · rw [unindent, shared last notBlank rfl]
    simp
  · rw [unindent, shared _ (isBlankLine_append notBlank _)
      (indentation_append_singleton notBlank ' ')]
    simp [List.drop_append_of_le_length shorter]

/-- A space behind a last line with content is a space behind the value. -/
theorem valueLines_append_singleton
    {last : List Char}
    (notBlank : isBlankLine last = false)
    (lines : List (List Char)) :
    joinLines (valueLines (lines ++ [last ++ [' ']])) =
      joinLines (valueLines (lines ++ [last])) ++ [' '] := by
  cases lines with
  | nil =>
    change joinLines (trimBlank ([] ++ [_])) = joinLines (trimBlank ([] ++ [_])) ++ _
    rw [trimBlank_append_singleton notBlank,
      trimBlank_append_singleton (isBlankLine_append notBlank _), joinLines_append_singleton]
  | cons first lines =>
    obtain ⟨others, rest, isContent, shorter, longer⟩ := exists_unindent notBlank lines
    rw [List.cons_append, List.cons_append, valueLines, valueLines, shorter, longer,
      ← List.cons_append, ← List.cons_append, trimBlank_append_singleton isContent,
      trimBlank_append_singleton (isBlankLine_append isContent _), joinLines_append_singleton]

/-- The value of a text with a space behind a quote at its end is the value of the text
with that space behind it. -/
theorem value_spaced (cs : List Char) :
    value (spaced cs) = value cs ++ if cs.getLast? = some '"' then [' '] else [] := by
  rw [spaced]
  split
  case isFalse => rw [List.append_nil]
  case isTrue endsInQuote =>
    obtain ⟨front, rfl⟩ := List.getLast?_eq_some_iff.mp endsInQuote
    obtain ⟨lines, last, split⟩ :=
      (List.eq_nil_or_concat' (Lines.source front)).resolve_left (Lines.source_ne_nil front)
    have quoted := source_append_singleton (by decide : '"' ≠ '\n') (by decide) split
    have spacedToo := source_append_singleton (by decide : ' ' ≠ '\n') (by decide) quoted
    have isContent : isBlankLine (last ++ ['"']) = false :=
      List.all_eq_false.mpr ⟨'"', by simp, by decide⟩
    rw [value, value, spacedToo, quoted, valueLines_append_singleton isContent]

end Block
end Text
end GraphQL
