import Lexeme.Files.Disk
import Lexeme.Toml.Settings

/-!
# Settings from files

Settings in files. A file that cannot be read is an error of its own, apart from a text that holds no
settings.
-/

set_option autoImplicit false
set_option relaxedAutoImplicit false

namespace Lexeme.Settings

/-- Reads settings from the file at a path over those that an environment chooses. -/
def ofFile (environment : Environment) (disk : Files.Disk) (path : String) :
    Except SettingsError Settings :=
  match disk.readText path with
  | .error cause => .error (.unreadable path cause)
  | .ok text => ofToml environment text

end Lexeme.Settings
