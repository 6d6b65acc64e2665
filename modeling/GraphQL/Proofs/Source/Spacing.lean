import GraphQL.Proofs.Source.Canonical.Leaf
import GraphQL.Proofs.Source.LineEnds

/-!
# What stands between tokens

A lexeme is known from the characters that it is read from.  So texts that are the same
token by token, and differ at most in the blanks, commas and comments between the tokens,
are read as the same lexemes.
-/

namespace GraphQL
namespace Source
namespace Lexer

open Text

/-! ## What readers leave -/

/-- A number is known from the characters that it is read from. -/
theorem number_split
    {cs rest : List Char}
    {found : Lexeme}
    (read : number cs = .ok (found, rest)) :
    ∃ token, cs = token ++ rest ∧ found = Canonical.wordLexeme token := by
  obtain ⟨token, split, ⟨isInteger, rfl⟩ | ⟨isFloat, rfl⟩⟩ := number_read read
  · refine ⟨token, split, ?_⟩
    rw [← Canonical.wordLexeme_of_isInteger, String.toList_ofList]
    rwa [String.toList_ofList]
  · refine ⟨token, split, ?_⟩
    rw [← Canonical.wordLexeme_of_isFloat, String.toList_ofList]
    rwa [String.toList_ofList]

/-- A string is read from its characters alone, whatever follows them. -/
theorem stringBody_split
    {cs value rest : List Char}
    (read : stringBody 0 cs = .ok (value, rest)) :
    ∃ front, cs = front ++ rest ∧ stringBody 0 front = .ok (value, []) := by
  -- An escape takes several characters at once, so the induction is on how many are left.
  induction size : cs.length using Nat.strongRecOn generalizing cs value with
  | ind size inductionHypothesis =>
    cases cs with
    | nil => cases read
    | cons c cs =>
      rw [stringBody] at read
      split_ifs at read with isQuote isBackslash ends
      · obtain ⟨rfl, rfl⟩ := Prod.mk.inj (Except.ok.inj read)
        exact ⟨[c], rfl, by rw [stringBody, if_pos isQuote]⟩
      · obtain ⟨⟨found, size⟩, readEscape, read⟩ := Outcome.bind_eq_ok_iff.mp read
        obtain ⟨⟨values, left⟩, readRest, same⟩ := Outcome.bind_eq_ok_iff.mp read
        obtain ⟨rfl, rfl⟩ := Prod.mk.inj (Except.ok.inj same)
        subst isBackslash
        obtain ⟨-, front, more, rfl, length, -, readFront⟩ := readsFront_escape readEscape
        rw [← length, stringBody_append] at readRest
        obtain ⟨back, rfl, readBack⟩ :=
          inductionHypothesis more.length (by simp at size; omega) readRest rfl
        have readAlone : escape ('\\' :: (front ++ back)) = .ok (found, _) := readFront back
        refine ⟨'\\' :: (front ++ back), by simp, ?_⟩
        rw [stringBody, if_neg isQuote, if_pos rfl, readAlone, Outcome.ok_bind]
        dsimp only
        rw [← length, stringBody_append, readBack]
        rfl
      · obtain ⟨⟨values, left⟩, readRest, same⟩ := Outcome.bind_eq_ok_iff.mp read
        obtain ⟨rfl, rfl⟩ := Prod.mk.inj (Except.ok.inj same)
        obtain ⟨front, rfl, readFront⟩ :=
          inductionHypothesis cs.length (by simp at size; omega) readRest rfl
        refine ⟨c :: front, rfl, ?_⟩
        rw [stringBody, if_neg isQuote, if_neg isBackslash, if_neg ends, readFront]
        rfl

/-- A block string is read from its characters alone, whatever follows them. -/
theorem blockBody_split
    {cs raw rest : List Char}
    (read : blockBody cs = .ok (raw, rest)) :
    ∃ front, cs = front ++ rest ∧ blockBody front = .ok (raw, []) := by
  fun_induction blockBody cs generalizing raw with
  | case1 cs =>
    obtain ⟨rfl, rfl⟩ := Prod.mk.inj (Except.ok.inj read)
    exact ⟨['"', '"', '"'], rfl, rfl⟩
  | case2 cs inductionHypothesis =>
    obtain ⟨⟨found, left⟩, readRest, same⟩ := Outcome.bind_eq_ok_iff.mp read
    obtain ⟨rfl, rfl⟩ := Prod.mk.inj (Except.ok.inj same)
    obtain ⟨front, rfl, readFront⟩ := inductionHypothesis readRest
    exact ⟨'\\' :: '"' :: '"' :: '"' :: front, rfl, by rw [blockBody, readFront]; rfl⟩
  | case3 c cs notQuotes notEscape inductionHypothesis =>
    obtain ⟨⟨found, left⟩, readRest, same⟩ := Outcome.bind_eq_ok_iff.mp read
    obtain ⟨rfl, rfl⟩ := Prod.mk.inj (Except.ok.inj same)
    obtain ⟨front, rfl, readFront⟩ := inductionHypothesis readRest
    refine ⟨c :: front, rfl, ?_⟩
    rw [blockBody.eq_3 c front, readFront]
    · rfl
    · exact fun more isQuote opens => notQuotes (more ++ left) isQuote (by rw [opens]; rfl)
    · exact fun more isBackslash opens =>
        notEscape (more ++ left) isBackslash (by rw [opens]; rfl)
  | case4 => cases read

/-! ## Lexemes -/

/-- The lexeme that is read from a text of its own. -/
def ofToken : List Char → Lexeme
  | [] => .endOfText
  | '"' :: '"' :: '"' :: cs =>
    match blockBody cs with
    | .ok (raw, _) => .blockString (String.ofList (Block.value raw))
    | .error _ => .endOfText
  | '"' :: cs =>
    match stringBody 0 cs with
    | .ok (value, _) => .string (String.ofList value)
    | .error _ => .endOfText
  | '.' :: '.' :: '.' :: _ => .punctuator .spread
  | c :: cs =>
    match Punctuator.ofChar? c with
    | some mark => .punctuator mark
    | none => Canonical.wordLexeme (c :: cs)

theorem ofToken_of_other
    {c : Char}
    {cs : List Char}
    (notQuote : c ≠ '"')
    (notSpread : ∀ more, c = '.' → cs = '.' :: '.' :: more → False) :
    ofToken (c :: cs) =
      match Punctuator.ofChar? c with
      | some mark => .punctuator mark
      | none => Canonical.wordLexeme (c :: cs) :=
  ofToken.eq_5 c cs (fun _ isQuote _ => notQuote isQuote) notQuote notSpread

/-- A lexeme that opens with neither a quote nor three points. -/
theorem exists_token_of_other
    {c : Char}
    {cs rest : List Char}
    {found : Lexeme}
    (notQuote : c ≠ '"')
    (notSpread : ∀ more, c = '.' → cs = '.' :: '.' :: more → False)
    (read : lexeme (c :: cs) = .ok (found, rest)) :
    ∃ token, c :: cs = token ++ rest ∧ found = ofToken token := by
  have isGenuine := genuine_of_lexeme read
  rw [lexeme_of_other notQuote notSpread] at read
  split at read
  case h_1 mark isMark =>
    obtain ⟨rfl, rfl⟩ := Prod.mk.inj (Except.ok.inj read)
    refine ⟨[c], rfl, ?_⟩
    rw [ofToken_of_other notQuote (by simp), isMark]
  case h_2 noMark =>
    split_ifs at read with isNumeral isStart
    · obtain ⟨token, split, rfl⟩ := number_split read
      cases token with
      | nil =>
        have isName : Name.IsName "" := isGenuine
        exact absurd isName (by decide)
      | cons d ds =>
        obtain ⟨rfl, rfl⟩ := List.cons.inj split
        refine ⟨c :: ds, rfl, ?_⟩
        rw [ofToken_of_other notQuote, noMark]
        exact fun more isPoint opens => notSpread (more ++ rest) isPoint (by rw [opens]; rfl)
    · rw [List.span_eq_takeWhile_dropWhile] at read
      obtain ⟨rfl, rfl⟩ := Prod.mk.inj (Except.ok.inj read)
      refine ⟨c :: cs.takeWhile Name.isContinue, by simp, ?_⟩
      rw [ofToken_of_other notQuote, noMark]
      · rw [← Canonical.wordLexeme_of_isName isGenuine, String.toList_ofList]
      · rintro more rfl -
        exact absurd isStart (by decide)

/-- A lexeme is known from the characters that it is read from. -/
theorem exists_token
    {cs rest : List Char}
    {found : Lexeme}
    (read : lexeme cs = .ok (found, rest)) :
    ∃ token, cs = token ++ rest ∧ found = ofToken token := by
  cases front cs with
  | nothing =>
    obtain ⟨rfl, rfl⟩ := Prod.mk.inj (Except.ok.inj read)
    exact ⟨[], rfl, rfl⟩
  | block cs =>
    rw [lexeme] at read
    obtain ⟨⟨raw, left⟩, readBody, same⟩ := Outcome.bind_eq_ok_iff.mp read
    obtain ⟨rfl, rfl⟩ := Prod.mk.inj (Except.ok.inj same)
    obtain ⟨front, rfl, readFront⟩ := blockBody_split readBody
    exact ⟨'"' :: '"' :: '"' :: front, rfl, by rw [ofToken, readFront]⟩
  | @string cs notBlock =>
    rw [lexeme.eq_3 cs notBlock] at read
    obtain ⟨⟨value, left⟩, readBody, same⟩ := Outcome.bind_eq_ok_iff.mp read
    obtain ⟨rfl, rfl⟩ := Prod.mk.inj (Except.ok.inj same)
    obtain ⟨front, rfl, readFront⟩ := stringBody_split readBody
    refine ⟨'"' :: front, rfl, ?_⟩
    rw [ofToken.eq_3 front, readFront]
    exact fun more opens => notBlock (more ++ left) (by rw [opens]; rfl)
  | spread cs =>
    obtain ⟨rfl, rfl⟩ := Prod.mk.inj (Except.ok.inj read)
    exact ⟨['.', '.', '.'], rfl, rfl⟩
  | other notQuote notSpread => exact exists_token_of_other notQuote notSpread read

/-! ## Between tokens -/

/-- The texts are the same token by token: they differ at most in what stands between the
tokens and is passed over. -/
inductive Respaced : List Char → List Char → Prop
  | finish {cs ds : List Char} :
      skipIgnored false cs = [] →
      skipIgnored false ds = [] →
      Respaced cs ds
  | token {cs ds rest left : List Char} {found other : Lexeme} (token : List Char) :
      skipIgnored false cs = token ++ rest →
      lexeme (token ++ rest) = .ok (found, rest) →
      skipIgnored false ds = token ++ left →
      lexeme (token ++ left) = .ok (other, left) →
      Respaced rest left →
      Respaced cs ds

/-- The same characters are read as the same lexeme. -/
theorem eq_of_token
    {token rest left : List Char}
    {found other : Lexeme}
    (read : lexeme (token ++ rest) = .ok (found, rest))
    (readOther : lexeme (token ++ left) = .ok (other, left)) :
    found = other := by
  obtain ⟨front, split, rfl⟩ := exists_token read
  obtain ⟨frontToo, splitToo, rfl⟩ := exists_token readOther
  rw [← List.append_cancel_right split, ← List.append_cancel_right splitToo]

/-- What stands between the tokens of a text does not matter. -/
theorem Respaced.lexed_eq
    {cs ds : List Char}
    (respaced : Respaced cs ds) :
    lexed cs = lexed ds := by
  induction respaced with
  | finish noToken noTokenToo =>
    rw [Source.lexed_eq, Source.lexed_eq, noToken, noTokenToo]
  | @token cs ds rest left found other token opens read opensToo readToo _ sameRest =>
    rw [Source.lexed_eq, opens, read, Source.lexed_eq, opensToo, readToo, eq_of_token read readToo]
    cases other with
    | endOfText => rfl
    | _ => exact congrArg (Lexed.of [_] ++ ·) sameRest

end Lexer
end Source
end GraphQL
