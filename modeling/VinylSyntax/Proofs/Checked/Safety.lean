import VinylSyntax.Proofs.Checked.Refinement
import VinylSyntax.SourceFile

/-!
# No fault is reachable from a source

The counters of lines and columns have room for every source that has at least two characters fewer
than they have values, and so for every file that is small enough to be loaded. Of such a source no
check fails: not while it is lexed, not while it is parsed as often as wanted, and not while the
errors that come of that are rendered.
-/

namespace VinylSyntax

/-! ## Files that are loaded -/

/-- A text has no more characters than bytes. -/
theorem length_le_utf8Len (text : List Char) : text.length ≤ String.utf8Len text := by
  induction text with
  | nil => exact Nat.le_refl _
  | cons char text ih =>
    have hpositive := char.utf8Size_pos
    rw [List.length_cons, String.utf8Len_cons]
    omega

/-- A text has no more characters than bytes. -/
theorem length_le_of_fromUTF8? {bytes : ByteArray} {text : String}
    (h : String.fromUTF8? bytes = some text) : text.length ≤ bytes.size := by
  have hbytes : text.utf8ByteSize = bytes.size := by
    unfold String.fromUTF8? at h
    split at h
    · rw [← Option.some.inj h]
      rfl
    · cases h
  have hle := length_le_utf8Len text.toList
  rwa [← String.utf8ByteSize_ofList, String.ofList_toList, String.length_toList, hbytes] at hle

/-- A file is loaded under its path if it is not too large and holds text. -/
theorem SourceFile.exists_of_load {path : String} {entry : Entry} {file : SourceFile}
    (h : (load path entry).1 = .ok file) :
    ∃ bytes text, entry = .file bytes ∧ bytes.size ≤ Limits.fileSize ∧
      String.fromUTF8? bytes = some text ∧ file = ⟨path, text, bytes.size⟩ := by
  change (ofEntry path entry).1 = .ok file at h
  unfold ofEntry at h
  split at h
  · cases h
  · split at h
    · cases h
    · cases h
    · next bytes =>
      split at h
      · cases h
      · next hsize =>
        unfold ofBytes at h
        split at h
        · next text htext =>
          cases h
          exact ⟨bytes, text, rfl, Nat.le_of_not_lt hsize, htext, rfl⟩
        · cases h
    · split at h <;> cases h

/-- A file that is loaded holds no more characters than a file may have bytes. -/
theorem SourceFile.length_le_of_load {path : String} {entry : Entry} {file : SourceFile}
    (h : (load path entry).1 = .ok file) : file.text.length ≤ Limits.fileSize := by
  obtain ⟨bytes, text, -, hsize, htext, rfl⟩ := exists_of_load h
  exact Nat.le_trans (length_le_of_fromUTF8? htext) hsize

/-! ## Sources -/

/-- The counters have room for a source, or it is that of a file that is loaded. -/
def Readable (source : String) : Prop :=
  source.length + 2 ≤ Location.counterRange ∨
    ∃ path entry file, (SourceFile.load path entry).1 = .ok file ∧ file.text = source

/-- The counters have room for a source that can be read. -/
theorem Readable.length_le {source : String} (h : Readable source) :
    source.length + 2 ≤ Location.counterRange := by
  rcases h with hlength | ⟨path, entry, file, hload, rfl⟩
  · exact hlength
  · have hsize := SourceFile.length_le_of_load hload
    have hlimit : Limits.fileSize + 2 ≤ Location.counterRange := by decide
    omega

/-- A message about a span is rendered with all checks, to what is rendered without them. -/
def Renders (source : String) (span : Span) (message : String) : Prop :=
  ∃ text, (SourceLines.ofString source).excerptChecked span message = .ok text ∧
    (SourceLines.ofString source).excerpt span message = .ok text

/-- A span whose columns are counted from one is rendered without a fault. -/
theorem renders_of_column (source : String) {span : Span} (hcolumn : 1 ≤ span.start.column)
    (message : String) : Renders source span message :=
  (SourceLines.ofString source).excerptChecked_eq hcolumn message

/-- No check fails while a readable source is lexed to its end, parsed any number of times by one
parser, or while the errors are rendered, and the outcomes are those without checks. -/
theorem reading_never_faults (lexical : LexicalPreferences) (syntactic : SyntaxPreferences)
    (earlier : List Event) {source : String} (h : Readable source) :
    let lexer := Lexer.ofString lexical source
    let parser := Parser.ofLexer syntactic lexer earlier
    lexer.runChecked = .ok lexer.run ∧
    (∀ error, .error error ∈ lexer.run.items → Renders source error.span error.message) ∧
    Parser.ofLexerChecked syntactic lexer earlier = .ok parser ∧
    ∀ times, ∃ tally,
      (Tally.ofParser parser).parseTimes times = .ok ((parser.parseTimes times).1, tally) ∧
      tally.parser = (parser.parseTimes times).2 ∧
      ∀ error, .error error ∈ (parser.parseTimes times).1 →
        Renders source error.span error.message := by
  intro lexer parser
  have hroomy : lexer.Roomy := Lexer.roomy_ofString lexical h.length_le
  obtain ⟨hparser, hsafe⟩ := Parser.ofLexerChecked_eq syntactic hroomy earlier
  refine ⟨Lexer.runChecked_eq hroomy, ?_, hparser, fun times => ?_⟩
  · intro error herror
    exact renders_of_column source (Lexer.placed_of_run hroomy _ herror) error.message
  · obtain ⟨tally, hparse, -, hbehind, hcolumns⟩ :=
      @Tally.parseTimes_eq (.ofParser parser) rfl hsafe times
    refine ⟨tally, hparse, hbehind, fun error herror => ?_⟩
    exact renders_of_column source (hcolumns error herror) error.message

/-- A symbol that is none is refused both times, and is rendered. -/
theorem reading_never_faults_symbol :
    Readable "é @" ∧ ∃ tally error,
      (Tally.ofParser (.ofLexer default (.ofString default "é @") [])).parseTimes 2 =
        .ok ([.error error, .error error], tally) ∧
      error.span = ⟨⟨1, 3⟩, ⟨1, 4⟩⟩ ∧ Renders "é @" error.span error.message := by
  have hreadable : Readable "é @" := .inl (by decide)
  let error : SyntaxError := .lexical (.token ⟨.malformedSymbol, "@", ⟨⟨1, 3⟩, ⟨1, 4⟩⟩⟩)
  have hresults : ((Parser.ofLexer default (.ofString default "é @") []).parseTimes 2).1 =
      [.error error, .error error] := by
    with_unfolding_all rfl
  obtain ⟨-, -, -, htimes⟩ := reading_never_faults default default [] hreadable
  obtain ⟨tally, hparse, -, hrenders⟩ := htimes 2
  rw [hresults] at hparse hrenders
  exact ⟨hreadable, tally, error, hparse, rfl, hrenders error (by simp)⟩

end VinylSyntax
