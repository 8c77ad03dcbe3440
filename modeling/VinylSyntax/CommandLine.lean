import VinylSyntax.Journal.Session
import VinylSyntax.Json.Encode
import VinylSyntax.SourceFile
import VinylSyntax.SourceLines

/-!
# The command line

The program `vinylc` reads one source file and prints a summary of its parts, or its syntax tree, or
its tokens; errors are shown with the line that they are about. `Invocation.ofArguments` reads the
arguments and `Invocation.run` says what is printed and how the program ends.
-/

namespace VinylSyntax

/-- What the program is asked to do. -/
inductive Invocation where
  /-- Print the version. -/
  | version
  /-- Print how the program is used. -/
  | help
  /-- Refuse the arguments. -/
  | misuse
  /-- Read the file at a path, print its tokens or its tree, as JSON or not. -/
  | read (path : String) (tokens json : Bool)
deriving DecidableEq, Inhabited

namespace Invocation

/-- What has been asked for so far. -/
structure Request where
  path : Option String
  tokens : Bool
  json : Bool

/-- Nothing asked for yet. -/
def Request.empty : Request := ⟨none, false, false⟩

/-- Takes an argument as the path, of which there may be only one and not an empty one. -/
def Request.take (request : Request) (path : String) : Option Request :=
  if path.isEmpty || request.path.isSome then none else some { request with path := some path }

/-- What is asked for once all arguments were taken. -/
def Request.finish (request : Request) : Invocation :=
  match request.path with
  | some path => .read path request.tokens request.json
  | none => .misuse

/-- Takes the arguments behind `--`, which are paths whatever they look like. -/
def takePaths (request : Request) : List String → Invocation
  | [] => request.finish
  | argument :: rest =>
    match request.take argument with
    | some request => takePaths request rest
    | none => .misuse

/-- Takes arguments in order. The first that asks for the version or for help, or that is wrong,
decides. No option may be given twice or be cut short. -/
def takeArguments (request : Request) : List String → Invocation
  | [] => request.finish
  | argument :: rest =>
    if argument == "--" then takePaths request rest
    else if argument == "--tokens" then
      if request.tokens then .misuse else takeArguments { request with tokens := true } rest
    else if argument == "--json" then
      if request.json then .misuse else takeArguments { request with json := true } rest
    else if argument == "--version" || argument.startsWith "-V" then .version
    else if argument == "--help" || argument.startsWith "-h" then .help
    else if argument.startsWith "-" && argument != "-" then .misuse
    else
      match request.take argument with
      | some request => takeArguments request rest
      | none => .misuse

/-- What the arguments ask for. -/
def ofArguments (arguments : List String) : Invocation := takeArguments .empty arguments

/-- The path that a file is read from, if one is. -/
def path? : Invocation → Option String
  | .read path _ _ => some path
  | _ => none

/-- How a run of the program ends: its exit code, and what it wrote. -/
structure Outcome where
  exitCode : Nat
  output : String
  errors : List ConsoleLine
deriving DecidableEq, Inhabited

/-- The name and the version of the program. -/
def versionLine : String := "vinylc 0.1.0"

/-- How the program is used. -/
def usage : String := "Usage: vinylc [--tokens] [--json] <PATH>"

/-- The lines that report an error in a source. -/
def report (file : SourceFile) (span : Span) (message : String) : List ConsoleLine :=
  let excerpt :=
    match (SourceLines.ofString file.text).excerpt span message with
    | .ok text => text
    | .error fault => fault.message
  [.text file.path, .text excerpt]

/-- A text padded with blanks to a width. -/
def padded (width : Nat) (text : String) : String :=
  text ++ SourceLines.blanks (width - text.length)

/-- The width of the column of spans in a list of tokens. -/
def spanWidth : Nat := 12

/-- The line of a token in a list of tokens. -/
def tokenLine (token : Token) : String := padded spanWidth token.span.render ++ " " ++ token.render

/-- Lines, each ended by a newline. -/
def unlines (lines : List String) : String :=
  lines.foldl (fun text line => text ++ line ++ "\n") ""

/-- What a list of tokens is printed as. -/
def printTokens (json : Bool) (tokens : List Token) : String :=
  if json then (Json.array (tokens.map Token.json)).pretty ++ "\n"
  else unlines (tokens.map tokenLine)

/-- What a program is printed as. -/
def printProgram (json : Bool) (program : List TopLevel) : String :=
  if json then (Json.array (program.map TopLevel.json)).pretty ++ "\n"
  else unlines (program.map TopLevel.summary)

/-- The session with the logging that the environment asks for. -/
def setUp (environment : Environment) : Session :=
  let session := (Session.ofEnvironment environment).start.2
  session.checkLexing.2.checkParsing.2

/-- Prints the tokens of a file up to the first error. -/
def runTokens (session : Session) (file : SourceFile) (json : Bool) : Outcome :=
  let preferences := session.readingPreferences.lexical
  let taken := (Lexer.ofString preferences file.text).takeTokens
  let session := (session.log (Lexer.openingEvent preferences)).logAll taken.events
  let output := printTokens json taken.tokens
  match taken.failure with
  | none => ⟨0, output, session.output.toList⟩
  | some error =>
    ⟨1, output, (session.write (report file error.span error.message)).output.toList⟩

/-- Prints the program that a file holds. -/
def runProgram (session : Session) (file : SourceFile) (json : Bool) : Outcome :=
  let parsed := parseFile session.readingPreferences file.path file.text
  let session := session.logAll parsed.events
  match parsed.result with
  | .ok program => ⟨0, printProgram json program, session.output.toList⟩
  | .error error =>
    ⟨1, "", (session.write (report file error.span error.message)).output.toList⟩

/-- Reads a file by what is at its path and prints it. -/
def runRead (environment : Environment) (entry : Entry) (path : String) (tokens json : Bool) :
    Outcome :=
  let (result, events) := SourceFile.load path entry
  let session := (setUp environment).logAll events
  match result with
  | .error error => ⟨1, "", (session.write [.text s!"Error: {error.message}"]).output.toList⟩
  | .ok file => if tokens then runTokens session file json else runProgram session file json

/-- What an invocation does, given the environment and what is at its path. -/
def run (environment : Environment) (entry : Entry) : Invocation → Outcome
  | .version => ⟨0, versionLine ++ "\n", []⟩
  | .help => ⟨0, usage ++ "\n", []⟩
  | .misuse => ⟨2, "", [.text usage]⟩
  | .read path tokens json => runRead environment entry path tokens json

end Invocation

end VinylSyntax
