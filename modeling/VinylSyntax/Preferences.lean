import VinylSyntax.Journal.Event

/-!
# Preferences

What the user of the program may choose: whether tokens are counted by kind, what is traced, and how
events are logged. Preferences are read from the variables of the environment; a variable that is
missing or has no meaning leaves the default.
-/

namespace VinylSyntax

/-- The variables that the program is run with. -/
structure Environment where
  bindings : List (String × String)
deriving Inhabited

namespace Environment

/-- The environment without variables. -/
def empty : Environment := ⟨[]⟩

/-- The value of a variable. -/
def get? (environment : Environment) (name : String) : Option String :=
  environment.bindings.lookup name

/-- A choice that must be spelled `true` or `false`. -/
def flag (environment : Environment) (name : String) (default : Bool) : Bool :=
  match environment.get? name with
  | some "true" => true
  | some "false" => false
  | _ => default

/-- The variable that chooses whether tokens are counted by kind. -/
def detailedMetrics : String := "VINYL_LEXICAL_DETAILED_METRICS"

/-- The variable that chooses whether tokens are reported. -/
def traceTokens : String := "VINYL_LEXICAL_TRACE_TOKENS"

/-- The variable that chooses whether productions are reported. -/
def traceProductions : String := "VINYL_SYNTAX_TRACE_PRODUCTIONS"

/-- The variable that chooses the form of log lines. -/
def useStructured : String := "VINYL_LOGGING_USE_STRUCTURED"

/-- The variable that chooses whether events are written to the console. -/
def enableConsole : String := "VINYL_LOGGING_ENABLE_CONSOLE"

/-- The variable that chooses the level up to which events are logged. -/
def leastLevel : String := "VINYL_LOGGING_MIN_LEVEL"

/-- The names of all variables that preferences are read from. -/
def names : List String :=
  [detailedMetrics, traceTokens, traceProductions, useStructured, enableConsole, leastLevel]

end Environment

/-- Choices about lexing. -/
structure LexicalPreferences where
  /-- Whether tokens are counted by kind. -/
  detailedMetrics : Bool
  /-- Whether every token is reported. -/
  traceTokens : Bool
deriving DecidableEq, Inhabited

/-- Choices about parsing. -/
structure SyntaxPreferences where
  /-- Whether every production and every token consumed is reported. -/
  traceProductions : Bool
deriving DecidableEq, Inhabited

/-- Choices about logging. -/
structure LoggingPreferences where
  /-- Whether log lines are JSON objects. -/
  structured : Bool
  /-- Whether events are written to the console at all. -/
  console : Bool
  /-- The level up to which events are logged. -/
  leastLevel : Level
deriving DecidableEq, Inhabited

/-- The choices about lexing that an environment makes. -/
def LexicalPreferences.ofEnvironment (environment : Environment) : LexicalPreferences :=
  { detailedMetrics := environment.flag Environment.detailedMetrics true
    traceTokens := environment.flag Environment.traceTokens false }

/-- The choices about parsing that an environment makes. -/
def SyntaxPreferences.ofEnvironment (environment : Environment) : SyntaxPreferences :=
  { traceProductions := environment.flag Environment.traceProductions false }

/-- The choices about logging that an environment makes. -/
def LoggingPreferences.ofEnvironment (environment : Environment) : LoggingPreferences :=
  { structured := environment.flag Environment.useStructured false
    console := environment.flag Environment.enableConsole false
    leastLevel := ((environment.get? Environment.leastLevel).bind Level.ofString?).getD .info }

/-- What suits work on the program itself: plain lines on the console, nothing left out. -/
def LoggingPreferences.development : LoggingPreferences :=
  { structured := false, console := true, leastLevel := .debug }

/-- All choices together. -/
structure Preferences where
  lexical : LexicalPreferences
  syntactic : SyntaxPreferences
  logging : LoggingPreferences
deriving DecidableEq, Inhabited

/-- All choices that an environment makes. -/
def Preferences.ofEnvironment (environment : Environment) : Preferences :=
  { lexical := .ofEnvironment environment
    syntactic := .ofEnvironment environment
    logging := .ofEnvironment environment }

end VinylSyntax
