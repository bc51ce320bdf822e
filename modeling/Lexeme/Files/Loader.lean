import Lexeme.Files.Disk
import Lexeme.Files.Metadata
import Lexeme.Log.EventText
import Lexeme.Log.Traced
import Lexeme.Settings.Basic
import Lexeme.Text.Blank
import Lexeme.Text.Extension
import Lexeme.Text.Lines
import Lexeme.Text.Quoted
import Lexeme.Time.Duration

/-!
# Loading files

Loading a source file. The path is checked first, then the size, then the extension, and at last the
text; the first check that fails is the error. Every step is traced.
-/

set_option autoImplicit false
set_option relaxedAutoImplicit false

namespace Lexeme.Files

open Log (Entry Traced)

/-- Why a file is not loaded. -/
inductive FileError where
  | notFound (path : String)
  | wrongExtension (expected : String) (found : Option String)
  | tooLarge (size limit : Nat)
  | permissionDenied (path : String)
  | invalidEncoding (path : String)
  | io (cause : String)
  | invalidPath (path : String)
  deriving Repr, DecidableEq

namespace FileError

def message : FileError → String
  | notFound path => "File not found: " ++ path
  | wrongExtension expected found =>
    "Invalid file extension: expected ." ++ expected ++ ", found " ++ Text.quotedOption found
  | tooLarge size limit =>
    "File too large: " ++ toString size ++ " bytes (max: " ++ toString limit ++ ")"
  | permissionDenied path => "Permission denied: " ++ path
  | invalidEncoding path => "Invalid UTF-8 encoding in file: " ++ path
  | io cause => "I/O error reading file: " ++ cause
  | invalidPath path => "Invalid file path: " ++ path

def code : FileError → Log.Code
  | notFound _ => .fileNotFound
  | wrongExtension _ _ => .invalidExtension
  | tooLarge _ _ => .fileTooLarge
  | permissionDenied _ => .permissionDenied
  | invalidEncoding _ => .invalidEncoding
  | io _ => .ioError
  | invalidPath _ => .invalidPath

end FileError

/-- A loaded source text. -/
structure LoadedFile where
  source : String
  metadata : Metadata
  duration : Time.Duration
  deriving Repr, DecidableEq

namespace LoadedFile

/-- Number of characters of the text. -/
def charCount (file : LoadedFile) : Nat :=
  file.source.length

/-- Whether the text holds nothing but blanks. -/
def isEffectivelyEmpty (file : LoadedFile) : Bool :=
  Text.isBlankText file.source

/-- Characters per millisecond of loading. -/
def rate (file : LoadedFile) : Decimal.Magnitude :=
  (Time.Duration.rate? file.charCount file.duration.milliseconds).getD .zero

end LoadedFile

/-- How files are loaded. A required extension is in lower case, without leading dots, and not
empty. -/
structure Loader where
  requiredExtension : Option String
  performanceLogging : Bool
  deriving Repr, DecidableEq

namespace Loader

/-- No extension is required. -/
def builtIn : Loader := ⟨none, true⟩

/-- The loader that settings ask for. -/
def ofSettings (settings : FileSettings) : Loader where
  requiredExtension := settings.requiredExtension.bind Text.requiredExtension?
  performanceLogging := settings.performanceLogging

/-- A file of which the canonical path and the size are known, and its bytes if it can be read. -/
structure Found where
  path : String
  size : Nat
  bytes : Except Fault ByteArray

/-- An error with its entry. -/
def reject {α : Type} (error : FileError) (event : String) (context : List (String × String)) :
    Traced FileError α :=
  .fail error ((Entry.error error.code event).withContext context)

/-- The canonical path of the file at a path. -/
def resolve (path : String) : Except Fault String → Traced FileError String
  | .ok canonical => pure canonical
  | .error fault =>
    reject (.io ("Failed to resolve path '" ++ path ++ "': " ++ fault.message))
      "Failed to canonicalize path" [("path", path), ("io_error", fault.message)]

/-- Finds the file at a path. -/
def find (disk : Disk) (path : String) : Traced FileError Found :=
  if Text.isBlankText path then
    reject (.invalidPath path) "Empty file path provided" []
  else
    match disk path with
    | .missing _ => reject (.notFound path) "File not found" [("path", path)]
    | .directory => reject (.invalidPath path) "Path is not a file" [("path", path)]
    | .device _ => reject (.invalidPath path) "Path is not a file" [("path", path)]
    | .file canonical bytes => do pure ⟨← resolve path canonical, bytes.size, .ok bytes⟩
    | .unreadable canonical size fault => do pure ⟨← resolve path canonical, size, .error fault⟩

/-- What is known about a file before it is read. -/
def inspect (found : Found) : Metadata :=
  ⟨found.path, found.size, pathExtension? found.path, 0⟩

/-- What was found out about a file. -/
def inspected (metadata : Metadata) : Entry :=
  (Entry.debug "File metadata collected").withContext [
    ("size_bytes", toString metadata.size), ("size_human", metadata.humanSize),
    ("extension", metadata.extensionText),
    ("max_size_bytes", toString Limits.current.maxFileSize),
    ("is_large_file", Log.Event.flagText metadata.isLarge)]

/-- Checks the size of a file. -/
def checkSize (metadata : Metadata) (path : String) : Traced FileError Unit :=
  if Limits.current.maxFileSize < metadata.size then
    reject (.tooLarge metadata.size Limits.current.maxFileSize)
      "File exceeds compile-time maximum size limit" [
        ("file", path), ("size_bytes", toString metadata.size),
        ("size_human", metadata.humanSize),
        ("limit_bytes", toString Limits.current.maxFileSize),
        ("limit_human", humanSize Limits.current.maxFileSize)]
  else if metadata.isLarge then
    .note <| (Entry.warning "Large input file").withContext [
      ("file", path), ("size_human", metadata.humanSize),
      ("threshold_bytes", toString Limits.current.largeFileThreshold)]
  else
    pure ()

/-- Checks the extension of a file. -/
def checkExtension (loader : Loader) (metadata : Metadata) (path : String) :
    Traced FileError Unit :=
  match loader.requiredExtension with
  | none => pure ()
  | some expected =>
    if metadata.hasExtension expected then pure ()
    else
      reject (.wrongExtension expected metadata.extension)
        "File does not have the required extension" [
          ("file", path), ("extension", metadata.extensionText), ("required", expected)]

/-- The error of a file that cannot be read. -/
def readError (path : String) : Fault → FileError
  | .permissionDenied => .permissionDenied path
  | fault => .io ("Failed to read file '" ++ path ++ "': " ++ fault.message)

/-- Reads the text of a file. -/
def read (found : Found) (path : String) : Traced FileError String :=
  match found.bytes with
  | .error fault =>
    reject (readError found.path fault) "Failed to read file" [
      ("file", path), ("io_error", fault.message)]
  | .ok bytes =>
    match textOf bytes with
    | .error cause =>
      reject (.invalidEncoding found.path) "Failed to read file" [
        ("file", path), ("io_error", cause)]
    | .ok text =>
      ⟨[(Entry.debug "File content read successfully").withContext [
        ("file", path), ("chars", toString text.length), ("bytes", toString text.utf8ByteSize),
        ("lines", toString (Text.lineCount text))]], .ok text⟩

/-- That a file was loaded. -/
def loaded (loader : Loader) (file : LoadedFile) (path : String) : Entry :=
  let metadata := file.metadata
  let milliseconds := file.duration.milliseconds.fixed 2
  if loader.performanceLogging then
    (Entry.success .fileLoaded "File processed successfully with performance metrics").withContext [
      ("file", path), ("size_bytes", toString metadata.size),
      ("size_human", metadata.humanSize), ("lines", toString metadata.lineCount),
      ("chars", toString file.charCount), ("duration_ms", milliseconds),
      ("chars_per_ms", file.rate.fixed 2),
      ("is_large_file", Log.Event.flagText metadata.isLarge)]
  else
    (Entry.success .fileLoaded "File processed successfully").withContext [
      ("file", path), ("size_bytes", toString metadata.size),
      ("lines", toString metadata.lineCount), ("duration_ms", milliseconds)]

/-- Loads the file at a path, in a time that is given. -/
def load (loader : Loader) (disk : Disk) (elapsed : Time.Duration) (path : String) :
    Traced FileError LoadedFile := do
  .note ((Entry.debug "Starting file processing").withContext [("file", path)])
  let found ← find disk path
  let metadata := inspect found
  .note (inspected metadata)
  checkSize metadata path
  loader.checkExtension metadata path
  let source ← read found path
  let file : LoadedFile :=
    ⟨source, { metadata with lineCount := Text.lineCount source }, elapsed⟩
  .note (loader.loaded file path)
  pure file

end Loader

end Lexeme.Files
