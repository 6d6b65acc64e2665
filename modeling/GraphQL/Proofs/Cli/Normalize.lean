import GraphQL.Proofs.Cli.Check
import GraphQL.Proofs.Source.FixedPoint

/-!
# Files in canonical form

What the program prints of a file can be written to another file.  The two files are compared
as equal, and the second one is printed just like the first one, if canonical text is its own
canonical text: if block strings are steady and definitions are apart.
-/

namespace GraphQL
namespace Cli

open Source Text

/-! ## What is printed -/

theorem stripStyle_of_not_mem
    {cs : List Char}
    (noEscape : '\x1b' ∉ cs) :
    stripStyle cs = cs := by
  fun_induction stripStyle cs with
  | case1 => rfl
  | case2 => simp at noEscape
  | case3 => simp at noEscape
  | case4 c rest notSequence inductionHypothesis =>
    rw [inductionHypothesis (List.not_mem_of_not_mem_cons noEscape)]

theorem joinLineEnds_of_not_mem
    {cs : List Char}
    (noReturn : '\r' ∉ cs) :
    joinLineEnds cs = cs := by
  fun_induction joinLineEnds cs with
  | case1 => simp at noReturn
  | case2 c rest notPair inductionHypothesis =>
    rw [inductionHypothesis (List.not_mem_of_not_mem_cons noReturn)]
  | case3 => rfl

/-- A text without escape characters and carriage returns is printed as it is. -/
theorem echo_eq_append
    {text : String}
    (noEscape : '\x1b' ∉ text.toList)
    (noReturn : '\r' ∉ text.toList) :
    echo text = text ++ "\n" := by
  rw [echo, stripStyle_of_not_mem (by simpa using noEscape),
    joinLineEnds_of_not_mem (by simpa using noReturn), String.ofList_append, String.ofList_toList]

/-! ## The commands -/

variable
  {world : World}
  {path : String}
  {content : List UInt8}
  {text : String}

theorem takeApart_others
    (known : List OptionName)
    {paths : List String}
    (notOptions : ∀ path ∈ paths, isOption path = false) :
    takeApart known true paths = .ok ⟨[], paths⟩ := by
  induction paths with
  | nil => rfl
  | cons path paths inductionHypothesis =>
    have notOption := notOptions path (by simp)
    have notDashes : path ≠ "--" := by
      rintro rfl
      simp [isOption] at notOption
    have others := inductionHypothesis fun other present => notOptions other (by simp [present])
    rw [takeApart, if_neg notDashes, notOption, others]
    rfl

theorem runNormalize_eq
    {arguments : Arguments}
    (paths : arguments.others = [path])
    (found : world.entry path = .file content)
    (decoded : Utf8.decode content = .ok text)
    {canonical : String}
    (normalized : (normalize text).toOption = some canonical) :
    runNormalize world arguments = .printed canonical := by
  have taken : (do
      let path ← takeFile world "PATH" arguments.others[0]?
      checkNoMore (arguments.others.drop 1)
      return path) = Except.ok path := by
    rw [paths]
    change (takeFile world "PATH" (some path) >>= fun path => _) = _
    rw [takeFile_eq found]
    rfl
  have loaded : normalize (String.ofList (Lines.unify text.toList)) = .ok canonical :=
    eq_ok_iff_toOption.mpr ((toOption_normalize_unify text).trans normalized)
  rw [runNormalize]
  simp only [taken, readFile_eq found decoded, loaded]

/-- A file that holds a text is printed in its canonical form. -/
theorem run_normalize_eq
    (notOption : isOption path = false)
    (found : world.entry path = .file content)
    (decoded : Utf8.decode content = .ok text)
    {canonical : String}
    (normalized : (normalize text).toOption = some canonical) :
    run world ["normalize", path] = .printed canonical := by
  have taken : takeApart Command.normalize.options true [path] = .ok ⟨[], [path]⟩ :=
    takeApart_others _ (by simpa using notOption)
  change run world (Command.normalize.name :: [path]) = _
  rw [run_name_cons, runCommand, taken]
  exact runNormalize_eq rfl found decoded normalized

/-- Two files with texts are compared as equal exactly if the texts are equivalent. -/
theorem exit_run_check_eq_zero_iff
    {otherPath : String}
    {otherContent : List UInt8}
    {other : String}
    (notOption : isOption path = false)
    (notOptionToo : isOption otherPath = false)
    (found : world.entry path = .file content)
    (foundToo : world.entry otherPath = .file otherContent)
    (decoded : Utf8.decode content = .ok text)
    (decodedToo : Utf8.decode otherContent = .ok other) :
    (run world ["check", path, otherPath]).exit = 0 ↔ equivalent text other = .ok true := by
  have taken : takeApart Command.check.options true [path, otherPath] =
      .ok ⟨[], [path, otherPath]⟩ :=
    takeApart_others _ (by simp [notOption, notOptionToo])
  have compared : run world ["check", path, otherPath] =
      compare (String.ofList (Lines.unify text.toList)) (String.ofList (Lines.unify other.toList))
        false := by
    change run world (Command.check.name :: [path, otherPath]) = _
    rw [run_name_cons, runCommand, taken]
    exact runCheck_eq rfl found foundToo decoded decodedToo
  obtain ⟨-, ⟨exit, same⟩ | ⟨exit, differ⟩⟩ := compare_outcome
    (String.ofList (Lines.unify text.toList)) (String.ofList (Lines.unify other.toList)) false
  · simp [compared, exit, equivalent_unify_iff.mp same]
  · rw [ne_eq, equivalent_unify_iff] at differ
    simp [compared, exit, differ]

/-- Canonical text is a fixed point exactly where the block strings of the document are steady
and no definition takes the brace of the next one for its own.  Exactly there, a file is also
compared as equal with one that holds what is printed of it, and what is printed of the one is
printed of the other, provided that the canonical text is printed as it is. -/
theorem normalize_exact
    {document : Document}
    (parsed : Document.parse text = .ok document) :
    normalize text = .ok document.print ∧
      (normalize document.print = .ok document.print ↔ document.Steady ∧ document.Apart) ∧
      ∀ (world : World) (path canonicalPath : String) (content canonicalContent : List UInt8),
        isOption path = false → isOption canonicalPath = false →
        world.entry path = .file content → Utf8.decode content = .ok text →
        world.entry canonicalPath = .file canonicalContent →
        Utf8.decode canonicalContent = .ok (run world ["normalize", path]).stdout →
        echo document.print = document.print ++ "\n" →
        run world ["normalize", path] = .printed document.print ∧
          (document.Steady ∧ document.Apart →
            run world ["normalize", canonicalPath] = run world ["normalize", path]) ∧
          ((run world ["check", path, canonicalPath]).exit = 0 ↔
            document.Steady ∧ document.Apart) := by
  have normalized := normalize_of_parse parsed
  have fixed := normalize_print_eq_ok_iff parsed
  refine ⟨normalized, fixed, ?_⟩
  intro world path canonicalPath content canonicalContent notOption notOptionToo found decoded
    foundToo written shown
  have printed : run world ["normalize", path] = .printed document.print :=
    run_normalize_eq notOption found decoded (by rw [normalized]; rfl)
  have decodedToo : Utf8.decode canonicalContent = .ok (document.print ++ "\n") := by
    rw [written, printed, ← shown]
    rfl
  have sameNormal := toOption_normalize_print_lineFeed parsed
  refine ⟨printed, fun holds => ?_, ?_⟩
  · have normal := fixed.mpr holds
    rw [printed]
    exact run_normalize_eq notOptionToo foundToo decodedToo (by rw [sameNormal, normal]; rfl)
  · rw [exit_run_check_eq_zero_iff notOption notOptionToo found foundToo decoded decodedToo,
      ← equivalent_print_iff parsed, eq_ok_iff_toOption, eq_ok_iff_toOption, toOption_equivalent,
      toOption_equivalent, sameNormal]

/-- A file with a query and one with what is printed of it. -/
def printedFile : World where
  entry path :=
    if path = "f" then .file [0x7b, 0x61, 0x7d]
    else .file [0x7b, 0x0a, 0x20, 0x20, 0x61, 0x0a, 0x7d, 0x0a]
  modules := []
  classes := []

/-- A type without fields in front of a query with selections only. -/
def typeAndQuery : Document :=
  ⟨[.type none ⟨"A", [], .object [] []⟩, .operation .query none [] [] [.field none "a" [] [] []]]⟩

/-- A field with a block string that opens with a blank and has a line separator in it. -/
def separatedBlock : Document :=
  ⟨[.operation .query none [] []
    [.field none "a" [⟨"x", .string " a\u2028 b" true⟩] [] []]]⟩

/-- A query with one field is printed just like what is printed of it.  A type without fields
takes the brace of the query behind it for its own, and a block string loses a blank. -/
theorem normalize_exact_examples :
    (run printedFile ["check", "f", "g"]).exit = 0 ∧
      normalize typeAndQuery.print ≠ .ok typeAndQuery.print ∧
      normalize separatedBlock.print ≠ .ok separatedBlock.print := by
  have parsed : Document.parse "\x7ba\x7d" = .ok (fieldQuery "a") := by cbv
  have parsedType : Document.parse "type A query \x7ba\x7d" = .ok typeAndQuery := by cbv
  have parsedBlock : Document.parse
      "\x7ba(x: \"\"\" a\u2028 b\"\"\")\x7d" = .ok separatedBlock := by cbv
  have decoded : Utf8.decode [0x7b, 0x61, 0x7d] = .ok "\x7ba\x7d" := by cbv
  have shown : echo (fieldQuery "a").print = (fieldQuery "a").print ++ "\n" :=
    echo_eq_append (by decide) (by decide)
  have notOption : isOption "f" = false := by simp [isOption]
  have notOptionToo : isOption "g" = false := by simp [isOption]
  obtain ⟨-, -, files⟩ := normalize_exact parsed
  have found : printedFile.entry "f" = .file [0x7b, 0x61, 0x7d] := rfl
  have foundToo : printedFile.entry "g" =
      .file [0x7b, 0x0a, 0x20, 0x20, 0x61, 0x0a, 0x7d, 0x0a] := rfl
  have printed : run printedFile ["normalize", "f"] = .printed (fieldQuery "a").print :=
    run_normalize_eq notOption found decoded (by rw [normalize_of_parse parsed]; rfl)
  have written : Utf8.decode [0x7b, 0x0a, 0x20, 0x20, 0x61, 0x0a, 0x7d, 0x0a] =
      .ok (run printedFile ["normalize", "f"]).stdout := by
    rw [printed]
    change _ = Except.ok (echo (fieldQuery "a").print)
    rw [shown]
    cbv
  obtain ⟨-, -, exits⟩ := files printedFile "f" "g" _ _ notOption notOptionToo found decoded
    foundToo written shown
  refine ⟨exits.mpr (by decide), fun fixed => ?_, fun fixed => ?_⟩
  · have apart := ((normalize_exact parsedType).2.1.mp fixed).2
    revert apart
    decide
  · have steady := ((normalize_exact parsedBlock).2.1.mp fixed).1
    revert steady
    decide

end Cli
end GraphQL
