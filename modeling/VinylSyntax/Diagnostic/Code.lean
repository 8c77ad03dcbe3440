/-!
# Diagnostic codes

Every event of the program carries a code. The registered codes say which part of the program they
belong to, how severe they are, whether work can go on, and what to do about them; a code that is
not registered has neutral answers to these questions.
-/

namespace VinylSyntax

/-- How bad it is when a code is reported. -/
inductive Severity where
  | critical
  | high
  | medium
  | low
deriving DecidableEq, Inhabited

namespace Severity

/-- Every severity, the worst first. -/
def all : List Severity := [.critical, .high, .medium, .low]

/-- The name of a severity. -/
def name : Severity → String
  | .critical => "Critical"
  | .high => "High"
  | .medium => "Medium"
  | .low => "Low"

/-- The severity of a name. -/
def ofName? (text : String) : Option Severity :=
  all.find? fun severity => severity.name == text

end Severity

/-- The code of an event. -/
structure Code where
  text : String
deriving DecidableEq, Inhabited

namespace Code

/-- Critical internal error. -/
def internalError : Code := ⟨"ERR001"⟩

/-- System initialization failure. -/
def initializationFailure : Code := ⟨"ERR002"⟩

/-- Source file not found. -/
def fileNotFound : Code := ⟨"E005"⟩

/-- Source file exceeds the maximum size. -/
def fileTooLarge : Code := ⟨"E007"⟩

/-- Permission denied reading source file. -/
def permissionDenied : Code := ⟨"E009"⟩

/-- Source file is not valid UTF-8. -/
def invalidEncoding : Code := ⟨"E010"⟩

/-- I/O error while reading source. -/
def readFailure : Code := ⟨"E011"⟩

/-- Invalid source path. -/
def invalidPath : Code := ⟨"E012"⟩

/-- Malformed integer literal. -/
def malformedInteger : Code := ⟨"E020"⟩

/-- Malformed floating point literal. -/
def malformedFloat : Code := ⟨"E021"⟩

/-- Malformed identifier. -/
def malformedIdentifier : Code := ⟨"E022"⟩

/-- Reserved keyword used as identifier. -/
def reservedIdentifier : Code := ⟨"E023"⟩

/-- Malformed keyword. -/
def malformedKeyword : Code := ⟨"E024"⟩

/-- Malformed symbol. -/
def malformedSymbol : Code := ⟨"E025"⟩

/-- Unterminated block comment. -/
def unterminatedComment : Code := ⟨"E026"⟩

/-- Identifier exceeds maximum length. -/
def identifierTooLong : Code := ⟨"E027"⟩

/-- Comment exceeds maximum length. -/
def commentTooLong : Code := ⟨"E028"⟩

/-- Token count limit exceeded. -/
def tooManyTokens : Code := ⟨"E029"⟩

/-- Unexpected token. -/
def unexpectedToken : Code := ⟨"E050"⟩

/-- Unexpected end of input. -/
def unexpectedEndOfInput : Code := ⟨"E051"⟩

/-- Maximum nesting depth exceeded. -/
def nestingTooDeep : Code := ⟨"E052"⟩

/-- Too many function arguments. -/
def tooManyArguments : Code := ⟨"E053"⟩

/-- System initialization completed. -/
def loggingReady : Code := ⟨"I004"⟩

/-- Source file loaded. -/
def sourceLoaded : Code := ⟨"I010"⟩

/-- Tokenization completed. -/
def lexingComplete : Code := ⟨"I020"⟩

/-- Syntax tree construction completed. -/
def parsingComplete : Code := ⟨"I040"⟩

/-- The code of warnings. -/
def warning : Code := ⟨"W000"⟩

/-- The code of information that reports no particular success. -/
def information : Code := ⟨"I000"⟩

/-- The code of debugging events. -/
def debugging : Code := ⟨"D000"⟩

/-- What is registered about a code. -/
structure Entry where
  code : Code
  category : String
  severity : Severity
  recoverable : Bool
  requiresHalt : Bool
  description : String
  action : String
deriving Inhabited

/-- The registered codes. -/
def registry : List Entry :=
  [⟨internalError, "System", .critical, false, true, "Critical internal error",
    "File a bug report with the input that triggered it"⟩,
   ⟨initializationFailure, "System", .critical, false, true, "System initialization failure",
    "Check logging configuration and environment variables"⟩,
   ⟨fileNotFound, "Source", .high, false, true, "Source file not found",
    "Verify the path exists and points to a file"⟩,
   ⟨fileTooLarge, "Source", .high, false, true, "Source file exceeds the maximum size",
    "Split the source or raise max_file_size in the build profile"⟩,
   ⟨permissionDenied, "Source", .high, false, true, "Permission denied reading source file",
    "Check file permissions"⟩,
   ⟨invalidEncoding, "Source", .high, false, true, "Source file is not valid UTF-8",
    "Re-encode the file as UTF-8"⟩,
   ⟨readFailure, "Source", .high, false, true, "I/O error while reading source",
    "Retry or check the underlying device"⟩,
   ⟨invalidPath, "Source", .high, false, true, "Invalid source path",
    "Provide a non-empty path to a regular file"⟩,
   ⟨malformedInteger, "Lexical", .high, false, true, "Malformed integer literal",
    "Use a 0b, 0o, 0x or decimal literal with an optional i8..u64, iz or uz suffix"⟩,
   ⟨malformedFloat, "Lexical", .high, false, true, "Malformed floating point literal",
    "Use digits, an optional fraction and exponent, and an optional f32 or f64 suffix"⟩,
   ⟨malformedIdentifier, "Lexical", .high, false, true, "Malformed identifier",
    "Identifiers may only contain letters, digits and underscores"⟩,
   ⟨reservedIdentifier, "Lexical", .high, false, true, "Reserved keyword used as identifier",
    "Rename the identifier"⟩,
   ⟨malformedKeyword, "Lexical", .medium, true, false, "Malformed keyword",
    "Keyword spelling does not match a reserved word"⟩,
   ⟨malformedSymbol, "Lexical", .high, false, true, "Malformed symbol",
    "Remove or replace the unrecognized character"⟩,
   ⟨unterminatedComment, "Lexical", .high, false, true, "Unterminated block comment",
    "Close the block comment with */"⟩,
   ⟨identifierTooLong, "Lexical", .high, false, true, "Identifier exceeds maximum length",
    "Shorten the identifier"⟩,
   ⟨commentTooLong, "Lexical", .high, false, true, "Comment exceeds maximum length",
    "Split the comment"⟩,
   ⟨tooManyTokens, "Lexical", .critical, false, true, "Token count limit exceeded",
    "Split the source into smaller units"⟩,
   ⟨unexpectedToken, "Syntax", .high, false, true, "Unexpected token",
    "Check the token against the expected grammar at this position"⟩,
   ⟨unexpectedEndOfInput, "Syntax", .high, false, true, "Unexpected end of input",
    "Complete the construct before the end of the source"⟩,
   ⟨nestingTooDeep, "Syntax", .critical, false, true, "Maximum nesting depth exceeded",
    "Reduce the nesting of if statements"⟩,
   ⟨tooManyArguments, "Syntax", .high, false, true, "Too many function arguments",
    "Reduce the number of arguments or group them"⟩,
   ⟨loggingReady, "System", .low, true, false, "System initialization completed",
    "Ready for processing"⟩,
   ⟨sourceLoaded, "Source", .low, true, false, "Source file loaded",
    "Ready for lexical analysis"⟩,
   ⟨lexingComplete, "Lexical", .low, true, false, "Tokenization completed",
    "Token stream ready for parsing"⟩,
   ⟨parsingComplete, "Syntax", .low, true, false, "Syntax tree construction completed",
    "Syntax tree ready for semantic analysis"⟩]

/-- What is registered about a code, if it is. -/
def entry? (code : Code) : Option Entry :=
  registry.find? fun entry => entry.code == code

/-- The severity of a code; one that is not registered is of medium severity. -/
def severity (code : Code) : Severity := (code.entry?.map Entry.severity).getD .medium

/-- Whether work can go on after a code; it can after one that is not registered. -/
def isRecoverable (code : Code) : Bool := (code.entry?.map Entry.recoverable).getD true

/-- Whether work must stop at a code; it need not at one that is not registered. -/
def requiresHalt (code : Code) : Bool := (code.entry?.map Entry.requiresHalt).getD false

/-- What is said of a code that is not registered. -/
def unknownDescription : String := "Unknown error"

/-- What a code means. -/
def description (code : Code) : String :=
  (code.entry?.map Entry.description).getD unknownDescription

/-- What is recommended about a code that is not registered. -/
def unknownAction : String := "No specific action available"

/-- What to do about a code. -/
def action (code : Code) : String := (code.entry?.map Entry.action).getD unknownAction

/-- The part of the program that a code belongs to. -/
def category (code : Code) : String := (code.entry?.map Entry.category).getD "Unknown"

end Code

end VinylSyntax
