import Lexeme.Files.Loader
import Lexeme.Scan.Diagnostic
import Lexeme.Toml.Settings

/-!
# Failures

Why an input has no result. A failure keeps the error of the stage that it comes from, with its code.
-/

set_option autoImplicit false
set_option relaxedAutoImplicit false

namespace Lexeme.Pipeline

/-- What went wrong, by stage. -/
inductive Failure where
  | file (error : Files.FileError)
  | scan (error : LexerError)
  | settings (error : SettingsError)
  /-- A report could not be written or read back. -/
  | output (cause : String)
  | internal (message : String)
  deriving Repr, DecidableEq

namespace Failure

def message : Failure → String
  | file error => "File processing failed: " ++ error.message
  | scan error => "Lexical analysis failed: " ++ error.message
  | settings error => "Configuration failed: " ++ error.message
  | output cause => "Output serialization failed: " ++ cause
  | internal message => "Pipeline error: " ++ message

def code : Failure → Log.Code
  | file error => error.code
  | scan error => error.code
  | settings error => error.code
  | output _ => .serializationError
  | internal _ => .internalError

end Failure

end Lexeme.Pipeline
