import Lexeme.CommandLine.Arguments

/-!
# Help and refusals

What the program says about itself and about a command line that it refuses.
-/

set_option autoImplicit false
set_option relaxedAutoImplicit false

namespace Lexeme.CommandLine

/-- Name and version of the program. -/
def versionText : String := "tokscan 0.1.0\n"

/-- The options in words. The path of the settings file in the environment is shown. -/
def helpText (environment : Environment) : String :=
  "Single-pass token scanner\n\n" ++
    "Usage: tokscan [OPTIONS] [FILES]...\n\n" ++
    "Arguments:\n  [FILES]...  Files to scan\n\n" ++
    "Options:\n" ++
    "      --stdin                  Read source text from standard input\n" ++
    "      --strict                 Fail on the first unterminated string or unrecognized " ++
    "character\n" ++
    "  -f, --format <FORMAT>        Output format [default: text] [possible values: text, json]\n" ++
    "  -c, --config <CONFIG>        Runtime configuration TOML [env: TOKSCAN_CONFIG=" ++
    (environment Arguments.configVariable).getD "" ++ "]\n" ++
    "      --log-level <LOG_LEVEL>  Log to stderr at this level (error, warn, info, debug)\n" ++
    "      --summary                Print per-kind token counts after each input\n" ++
    "      --metrics                Include lexical metrics in JSON output\n" ++
    "  -h, --help                   Print help\n" ++
    "  -V, --version                Print version\n"

def Notice.text (environment : Environment) : Notice → String
  | help => helpText environment
  | version => versionText

namespace UsageError

/-- The cause of an error. -/
def cause : UsageError → String
  | unknownOption word => "unexpected argument '" ++ word ++ "' found"
  | missingValue key => "a value is required for '--" ++ key.name ++ "' but none was supplied"
  | needlessValue word => "a value for '--" ++ word ++ "' found; no more were expected"
  | invalidValue key value => "invalid value '" ++ value ++ "' for '--" ++ key.name ++ "'"
  | repeated word => "the argument '--" ++ word ++ "' cannot be used multiple times"
  | emptyFile => "a value is required for '[FILES]...' but none was supplied"
  | noInput => "the following required arguments were not provided: <FILES>..."

def message (error : UsageError) : String :=
  "error: " ++ error.cause ++
    "\n\nUsage: tokscan [OPTIONS] [FILES]...\n\nFor more information, try '--help'."

end UsageError

end Lexeme.CommandLine
