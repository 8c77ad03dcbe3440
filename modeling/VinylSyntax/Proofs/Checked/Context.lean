import VinylSyntax.Proofs.Checked.Safety

/-!
# The production that an error is reported with

An error is reported with the production that the parser says it is in. Most productions stay when
they fail, but a conditional whose branches fail is left all the same, as if it were complete. So
the production that is reported is not the innermost one that was entered and not completed: it lies
as many productions further out as there are conditionals among them whose branches were being read.
-/

namespace VinylSyntax

/-- The last event behind an error is that of the error, with the production that the parser is
in. -/
theorem Parser.logged_of_error {parser : Parser} {error : SyntaxError}
    (h : parser.parse.1 = .error error) :
    parser.parse.2.logged.head? = some (parser.parse.2.errorEvent error) := by
  unfold Parser.parse at h ⊢
  cases hprogram : Parse.program parser with
  | ok parts stuck => simp [hprogram] at h
  | error error' stuck =>
    simp only [hprogram, Except.error.injEq] at h ⊢
    obtain rfl := h
    rfl

section fresh

variable (lexical : LexicalPreferences) (syntactic : SyntaxPreferences) (earlier : List Event)
  {source : String}

/-- A fresh parser of a readable source parses it with all checks as without them. -/
theorem Readable.parse_eq (h : Readable source) :
    let parser := Parser.ofLexer syntactic (.ofString lexical source) earlier
    ∃ tally, (Tally.ofParser parser).parse = .ok (parser.parse.1, tally) ∧
      tally.parser = parser.parse.2 ∧
      ∀ error, parser.parse.1 = .error error →
        FailsAt 0 [] (.refused error) tally error tally.parser := by
  intro parser
  have hroomy : Lexer.Roomy (.ofString lexical source) := Lexer.roomy_ofString lexical h.length_le
  have hsafe := (Parser.ofLexerChecked_eq syntactic hroomy earlier).2
  obtain ⟨tally, hparse, -, hbehind, -, hfails⟩ := @Tally.parse_eq (.ofParser parser) rfl hsafe
  exact ⟨tally, hparse, hbehind, hfails⟩

/-- Behind an error, the parser has left one of the productions that were entered and not completed
for each conditional among these, except for one that was refused; the error is logged with the
innermost of the rest. -/
theorem parse_error_productions (hreadable : Readable source) {error : SyntaxError}
    (h : (Parser.ofLexer syntactic (.ofString lexical source) earlier).parse.1 = .error error) :
    let parser := Parser.ofLexer syntactic (.ofString lexical source) earlier
    ∃ tally, (Tally.ofParser parser).parse = .ok (.error error, tally) ∧
      tally.parser = parser.parse.2 ∧
      parser.parse.2.productions =
        tally.opened.drop (tally.opened.count .conditional - error.refusals) ∧
      parser.parse.2.logged.head? = some (parser.parse.2.errorEvent error) := by
  intro parser
  obtain ⟨tally, hparse, hbehind, hfails⟩ := hreadable.parse_eq lexical syntactic earlier
  obtain ⟨fresh, left, hopened, hleft, hproductions⟩ := (hfails error h).left_eq
  obtain rfl : tally.opened = fresh := hopened.trans (List.append_nil fresh)
  rw [h] at hparse
  refine ⟨tally, hparse, hbehind, ?_, Parser.logged_of_error h⟩
  rw [← hleft, Nat.add_sub_cancel, ← hproductions, hbehind]

end fresh

/-- In the branches of two conditionals, two productions are left. -/
theorem parse_error_productions_nested :
    let parser := Parser.ofLexer default (.ofString default "if x {if y {z}}") []
    Readable "if x {if y {z}}" ∧ ∃ error tally, parser.parse.1 = .error error ∧
      (Tally.ofParser parser).parse = .ok (.error error, tally) ∧
      tally.opened = [.expressionStatement, .block, .conditional, .block, .conditional, .program] ∧
      parser.parse.2.production = .conditional := by
  intro parser
  have hreadable : Readable "if x {if y {z}}" := .inl (by decide)
  have hfails : parser.parse.1.isOk = false := by decide +kernel
  have hproduction : parser.parse.2.production = .conditional := by decide +kernel
  have hopened : ((Tally.ofParser parser).parse.map (·.2.opened)).toOption =
      some [.expressionStatement, .block, .conditional, .block, .conditional, .program] := by
    decide +kernel
  cases herror : parser.parse.1 with
  | ok parts => simp [herror, Except.isOk, Except.toBool] at hfails
  | error error =>
    obtain ⟨tally, hparse, -⟩ := parse_error_productions default default [] hreadable herror
    rw [hparse] at hopened
    exact ⟨hreadable, error, tally, rfl, hparse, Option.some.inj hopened, hproduction⟩

/-- A statement fails in the branch of a conditional, and the block around it is reported. -/
theorem production_ne_opened :
    let parser := Parser.ofLexer default (.ofString default "if x { y }") []
    ∃ error tally, parser.parse = (.error error, tally.parser) ∧
      (Tally.ofParser parser).parse = .ok (.error error, tally) ∧
      tally.opened.head? = some .expressionStatement ∧ tally.parser.production = .block := by
  intro parser
  have hreadable : Readable "if x { y }" := .inl (by decide)
  have hfails : parser.parse.1.isOk = false := by decide +kernel
  have hproduction : parser.parse.2.production = .block := by decide +kernel
  have hopened : ((Tally.ofParser parser).parse.map (·.2.opened.head?)).toOption =
      some (some .expressionStatement) := by
    decide +kernel
  obtain ⟨tally, hparse, hbehind, -⟩ := hreadable.parse_eq default default []
  cases herror : parser.parse.1 with
  | ok parts => simp [herror, Except.isOk, Except.toBool] at hfails
  | error error =>
    rw [hparse] at hopened
    exact ⟨error, tally, Prod.ext herror hbehind.symm, hparse.trans (by rw [herror]),
      Option.some.inj hopened, hbehind ▸ hproduction⟩

end VinylSyntax
