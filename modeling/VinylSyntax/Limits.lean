/-!
# Limits

The bounds within which sources are read, lexed, parsed and logged. They are fixed when the program
is built, from the configuration of its build profile.
-/

namespace VinylSyntax.Limits

/-- The build profile whose configuration the limits come from. -/
def profile : String := "development"

/-- The directory that holds the configurations. -/
def configurationDirectory : String := "config"

/-- Where the limits come from, in words. -/
def provenance : String := s!"Generated from {configurationDirectory}/{profile}.toml"

/-- The largest source file, in bytes. -/
def fileSize : Nat := 10000000

/-- The longest identifier, in characters. -/
def identifierLength : Nat := 255

/-- The longest comment, in characters. -/
def commentLength : Nat := 100000

/-- The largest number of tokens of a source. -/
def tokenCount : Nat := 1000000

/-- The largest number of nested conditionals. -/
def nestingDepth : Nat := 128

/-- The largest number of arguments of a function. -/
def argumentCount : Nat := 255

/-- The number of events that an event buffer holds. -/
def bufferedEvents : Nat := 10000

/-- The longest message of an event, in characters. -/
def messageLength : Nat := 4096

/-- The largest token count that a configuration may allow. -/
def tokenCountBound : Nat := 10000000

/-- The largest number of buffered events that a configuration may allow. -/
def bufferedEventsBound : Nat := 1000000

/-- The least message length that a configuration may allow. -/
def messageLengthFloor : Nat := 64

/-- Checks the limits on lexing. -/
def checkLexing : Except String Unit :=
  if identifierLength = 0 then .error "MAX_IDENTIFIER_LENGTH cannot be zero"
  else if commentLength = 0 then .error "MAX_COMMENT_LENGTH cannot be zero"
  else if tokenCount = 0 then .error "MAX_TOKEN_COUNT cannot be zero"
  else if tokenCountBound < tokenCount then .error "MAX_TOKEN_COUNT exceeds reasonable limit"
  else .ok ()

/-- Checks the limits on logging. -/
def checkLogging : Except String Unit :=
  if bufferedEventsBound < bufferedEvents then
    .error s!"Log buffer size too large: {bufferedEvents}"
  else if messageLength < messageLengthFloor then
    .error s!"Max log message length too small: {messageLength}"
  else .ok ()

end VinylSyntax.Limits
