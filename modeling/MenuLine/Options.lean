import MenuLine.Text.Basic

/-!
# Options of the program

The words behind the name of the program. Words that mean nothing are warned
about, and an option that lacks its value is passed over.
-/

namespace MenuLine

structure Options where
  /-- The line to run instead of a session. -/
  command : Option Text
  /-- The file with the settings. -/
  config : Option Text
  help : Bool
  version : Bool
  trace : Bool
deriving DecidableEq, Repr

namespace Options

def none : Options := ⟨.none, .none, false, false, false⟩

def unknown (word : Text) : Text := "Warning: ignoring unknown argument ".toList ++ word

/-- Reads options from left to right, a later one over an earlier one. All
words behind `-c` are the line to run. Also gives the warnings. -/
def readInto (o : Options) : List Text → Options × List Text
  | [] => (o, [])
  | word :: words =>
    if word = "--trace".toList then readInto { o with trace := true } words
    else if word = "--help".toList || word = "-h".toList then
      readInto { o with help := true } words
    else if word = "--version".toList || word = "-V".toList then
      readInto { o with version := true } words
    else if word = "--config".toList then
      match words with
      | [] => (o, [])
      | path :: words => readInto { o with config := some path } words
    else if word = "-c".toList then
      if words.isEmpty then (o, []) else ({ o with command := some (Text.spaced words) }, [])
    else
      let (o, warnings) := readInto o words
      (o, unknown word :: warnings)

def read (words : List Text) : Options × List Text := readInto none words

def versionText : Text := "netprompt 0.1.0\n".toList

def helpLines : List String :=
  ["netprompt-0.1.0 - a menu-driven command line",
    "",
    "USAGE:",
    "    netprompt                   Start interactive prompt",
    "    netprompt -c <line>         Run a single line and exit",
    "    netprompt --config <path>   Read configuration from <path>",
    "    netprompt --trace           Log engine decisions to stderr",
    "    netprompt --help            Show this help message",
    "    netprompt --version         Show version",
    "",
    "STARTUP:",
    "    $NETPROMPT_CONFIG           Config file, when --config is not given",
    "    ~/.netprompt.toml           Config file otherwise",
    "    ~/.netpromptrc              Lines run before the first prompt",
    "    NETPROMPT_PROMPT            Overrides the configured prompt",
    "    RUST_LOG                    Log filter (e.g. netprompt=debug)",
    "",
    "INPUT:",
    "    cmd arg arg                 Run a command",
    "    cmd; cmd                    Run commands in order",
    "    cmd | filter args           Send output through a filter",
    "    cmd > file                  Write output to a file",
    "    \"a b\" 'a b' `a b`           Quoted word",
    "    \\ at end of line            Continue on the next line",
    "",
    "MENUS:",
    "    names                       Enter the names menu (hello $*)",
    "    list-files                  Enter the files menu (ls $1)",
    "    exit                        Leave the current menu, or quit at the top",
    "",
    "FILTERS:",
    "    grep [-i] [-v] <regex>      Keep matching lines",
    ""]

def helpText : Text := helpLines.flatMap fun line => line.toList ++ ['\n']

end Options

end MenuLine
