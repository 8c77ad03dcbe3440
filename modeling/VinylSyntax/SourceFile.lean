import VinylSyntax.Journal.Event

/-!
# Source files

A source is loaded from a path by what the file system has there: nothing, something other than a
file, a file too large, a file that cannot be read, or text. Only text in UTF-8 is a source.
-/

namespace VinylSyntax

/-- Why a file could not be read although it is there. -/
inductive ReadFailure where
  | vanished
  | denied
  | other (message : String)
deriving DecidableEq, Inhabited

/-- What a file system has at a path. -/
inductive Entry where
  | absent
  | directory
  | file (bytes : ByteArray)
  | unreadable (size : Nat) (failure : ReadFailure)
deriving Inhabited

/-- Why a path gives no source. -/
inductive SourceError where
  | fileNotFound (path : String)
  | fileTooLarge (size limit : Nat)
  | permissionDenied (path : String)
  | invalidEncoding (path : String)
  | readFailure (message : String)
  | invalidPath (path : String)
deriving DecidableEq, Inhabited

namespace SourceError

/-- What an error says. -/
def message : SourceError → String
  | .fileNotFound path => s!"File not found: {path}"
  | .fileTooLarge size limit => s!"File too large: {size} bytes (max: {limit})"
  | .permissionDenied path => s!"Permission denied: {path}"
  | .invalidEncoding path => s!"Invalid UTF-8 encoding in file: {path}"
  | .readFailure message => s!"I/O error reading file: {message}"
  | .invalidPath path => s!"Invalid file path: {path}"

/-- The code that an error is reported with. -/
def code : SourceError → Code
  | .fileNotFound _ => .fileNotFound
  | .fileTooLarge _ _ => .fileTooLarge
  | .permissionDenied _ => .permissionDenied
  | .invalidEncoding _ => .invalidEncoding
  | .readFailure _ => .readFailure
  | .invalidPath _ => .invalidPath

end SourceError

namespace ReadFailure

/-- What the file system says. -/
def message : ReadFailure → String
  | .vanished => "No such file or directory (os error 2)"
  | .denied => "Permission denied (os error 13)"
  | .other message => message

/-- The error of a file that could not be read. -/
def error (path : String) : ReadFailure → SourceError
  | .vanished => .fileNotFound path
  | .denied => .permissionDenied path
  | .other message => .readFailure s!"{path}: {message}"

end ReadFailure

/-- A source that was loaded: its path, its text, and its size in bytes. -/
structure SourceFile where
  path : String
  text : String
  size : Nat
deriving DecidableEq, Inhabited

namespace SourceFile

/-- The number of lines of a text: of newlines, and one more if text stands behind the last. -/
def lineCount (file : SourceFile) : Nat :=
  let (ended, isOpen) :=
    file.text.foldl
      (fun (ended, _) char => if char = '\n' then (ended + 1, false) else (ended, true)) (0, false)
  if isOpen then ended + 1 else ended

/-- What is said of a text that is not in UTF-8. -/
def notText : String := "stream did not contain valid UTF-8"

/-- The event of refusing a path. -/
def refusal (error : SourceError) (message : String) (context : List (String × String)) : Event :=
  (Event.error error.code message).withContext context

/-- The event of having loaded a source. -/
def loadedEvent (file : SourceFile) : Event :=
  (Event.success .sourceLoaded "Source file loaded").withContext
    [("file", file.path), ("size_bytes", toString file.size), ("lines", toString file.lineCount)]

/-- Loads the source that a file holds; also gives the event to be logged about it. -/
def ofBytes (path : String) (bytes : ByteArray) : Except SourceError SourceFile × Event :=
  match String.fromUTF8? bytes with
  | some text =>
    let file : SourceFile := ⟨path, text, bytes.size⟩
    (.ok file, file.loadedEvent)
  | none =>
    let error : SourceError := .invalidEncoding path
    (.error error,
      refusal error "Failed to read source file" [("path", path), ("io_error", notText)])

/-- The refusal of a file that is too large. -/
def tooLarge (path : String) (size : Nat) : Except SourceError SourceFile × Event :=
  let error : SourceError := .fileTooLarge size Limits.fileSize
  (.error error,
    refusal error "File exceeds maximum size"
      [("path", path), ("size_bytes", toString size),
       ("max_size_bytes", toString Limits.fileSize)])

/-- Loads the source at a path; also gives the event to be logged about the outcome. -/
def ofEntry (path : String) (entry : Entry) : Except SourceError SourceFile × Event :=
  if path.isEmpty then
    let error : SourceError := .invalidPath path
    (.error error, refusal error "Empty file path provided" [])
  else
    match entry with
    | .absent =>
      let error : SourceError := .fileNotFound path
      (.error error, refusal error "File not found" [("path", path)])
    | .directory =>
      let error : SourceError := .invalidPath path
      (.error error, refusal error "Path is not a file" [("path", path)])
    | .file bytes =>
      if Limits.fileSize < bytes.size then tooLarge path bytes.size else ofBytes path bytes
    | .unreadable size failure =>
      if Limits.fileSize < size then tooLarge path size
      else
        let error := failure.error path
        (.error error,
          refusal error "Failed to read source file"
            [("path", path), ("io_error", failure.message)])

/-- Loads the source at a path; also gives the events to be logged. -/
def load (path : String) (entry : Entry) : Except SourceError SourceFile × List Event :=
  let start := (Event.debug "Loading source").withContext [("file", path)]
  let (result, event) := ofEntry path entry
  (result, [start, event])

end SourceFile

end VinylSyntax
