import VinylSyntax.Journal.Service
import VinylSyntax.Lexer.Basic
import VinylSyntax.Parser.Basic

/-!
# Sessions

A session is the state of logging while the program runs: the service that was installed, the
preferences that were set, and the lines written. Both can be set once. Without a service nothing is
logged, and debugging events are not even made unless the preferences ask for their level.
-/

namespace VinylSyntax

/-- The state of logging in a run of the program. -/
structure Session where
  environment : Environment
  service : Option Service
  chosen : Option LoggingPreferences
  output : Array ConsoleLine
deriving Inhabited

namespace Session

/-- A session in which nothing was set. -/
def ofEnvironment (environment : Environment) : Session := ⟨environment, none, none, #[]⟩

/-- The preferences about logging: those that were set, else those of the environment. -/
def preferences (session : Session) : LoggingPreferences :=
  session.chosen.getD (.ofEnvironment session.environment)

/-- Whether a service was installed. -/
def isReady (session : Session) : Bool := session.service.isSome

/-- Whether an event is made at all. -/
def makes (session : Session) (event : Event) : Bool :=
  !event.isDebug || Level.debug.passes session.preferences.leastLevel

/-- The session with further lines written. -/
def write (session : Session) (lines : List ConsoleLine) : Session :=
  { session with output := session.output.appendList lines }

/-- Logs an event that was made. -/
def record (session : Session) (event : Event) : Session :=
  match session.service with
  | none => session
  | some service =>
    let (service, lines) := service.log event
    { session with service := some service }.write lines

/-- Logs an event. -/
def log (session : Session) (event : Event) : Session :=
  if session.makes event then session.record event else session

/-- Logs events in order. -/
def logAll (session : Session) (events : List Event) : Session := events.foldl log session

/-- What is said when a service is installed a second time. -/
def serviceTwice : String := "Global logger already initialized"

/-- What is said when preferences are set a second time. -/
def preferencesTwice : String := "Runtime preferences already initialized"

/-- Sets the preferences, once. -/
def choose (session : Session) (preferences : LoggingPreferences) : Except String Unit × Session :=
  match session.chosen with
  | some _ => (.error preferencesTwice, session)
  | none => (.ok (), { session with chosen := some preferences })

/-- Installs a service, once. -/
def install (session : Session) (service : Service) : Except String Unit × Session :=
  match session.service with
  | some _ => (.error serviceTwice, session)
  | none => (.ok (), { session with service := some service })

/-- The event of having installed the service that the preferences ask for. -/
def readyEvent : Event := .success .loggingReady "Global logging system initialized"

/-- Installs the service that the preferences ask for, once, and logs that. -/
def start (session : Session) : Except String Unit × Session :=
  match Limits.checkLogging with
  | .error message => (.error s!"Configuration validation failed: {message}", session)
  | .ok () =>
    match session.install (.ofPreferences session.preferences) with
    | (.ok (), session) => (.ok (), session.record readyEvent)
    | failed => failed

/-- Sets the preferences and installs the service that they ask for. -/
def startWith (session : Session) (preferences : LoggingPreferences) :
    Except String Unit × Session :=
  match session.choose preferences with
  | (.ok (), session) => session.start
  | failed => failed

/-- Logs an error; without a service, writes it. -/
def logSafely (session : Session) (code : Code) (message : String) : Session :=
  match session.service with
  | some _ => session.record (.error code message)
  | none => session.write [.text s!"[ERROR] FALLBACK: [{code.text}] {message}"]

/-- The limits and preferences of logging, in words. -/
def configuration (session : Session) : String :=
  let preferences := session.preferences
  "\n".intercalate
    ["Logging Configuration:",
     s!"- Log buffer size: {Limits.bufferedEvents}",
     s!"- Max message length: {Limits.messageLength}",
     s!"- Min log level: {preferences.leastLevel.label}",
     s!"- Structured logging: {preferences.structured}",
     s!"- Console logging: {preferences.console}"]

/-- The state of logging, in words. -/
def diagnostics (session : Session) : String :=
  let level :=
    match session.service with
    | none => ""
    | some service => s!"Service level: {service.least.label}\n"
  "=== Logging System Diagnostics ===\n" ++ s!"Initialized: {session.isReady}\n" ++ level ++
    s!"{Limits.provenance}\n\n" ++ session.configuration

/-- The preferences about lexing and parsing, which the environment makes. -/
def readingPreferences (session : Session) : Preferences := .ofEnvironment session.environment

/-- Reads the tokens of a source and logs that. -/
def tokenize (session : Session) (source : String) :
    Except LexicalError (List Token) × Session :=
  let preferences := session.readingPreferences.lexical
  let tokens := (Lexer.ofString preferences source).takeTokens
  (tokens.result, (session.log (Lexer.openingEvent preferences)).logAll tokens.events)

/-- Parses a source and logs that. -/
def parse (session : Session) (source : String) :
    Except SyntaxError (List TopLevel) × Session :=
  let parsed := parseSource session.readingPreferences source
  (parsed.result, session.logAll parsed.events)

/-- The codes that lexical errors are reported with. -/
def lexicalCodes : List Code :=
  [.malformedInteger, .malformedFloat, .malformedIdentifier, .reservedIdentifier,
   .malformedKeyword, .malformedSymbol, .unterminatedComment, .identifierTooLong, .commentTooLong,
   .tooManyTokens]

/-- The codes that syntax errors are reported with. -/
def syntaxCodes : List Code :=
  [.unexpectedToken, .unexpectedEndOfInput, .nestingTooDeep, .tooManyArguments]

/-- Checks that all lexical codes are registered, and logs the limits of lexing. -/
def checkLexing (session : Session) : Except String Unit × Session :=
  match lexicalCodes.find? fun code => code.entry?.isNone with
  | some code =>
    (.error s!"Lexical error code {code.text} not found in metadata registry", session)
  | none => (.ok (), session.log lexicalLimitsEvent)

/-- Checks that all syntax codes are described, and logs that. -/
def checkParsing (session : Session) : Except String Unit × Session :=
  match syntaxCodes.find? fun code => code.description == Code.unknownDescription with
  | some code => (.error s!"Syntax error code {code.text} has no description", session)
  | none => (.ok (), session.log syntaxReadyEvent)

end Session

end VinylSyntax
