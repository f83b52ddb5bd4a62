import RtlLiterals.Command.Arguments
import RtlLiterals.Location

/-!
# RtlLiterals.Command.Help -- what the program says about itself

Help comes with a line for each parameter, or in detail.
-/

namespace RtlLiterals

/-- Lines of text, each with its end. -/
def Text.ofLines (lines : List String) : Text :=
  lines.flatMap fun line => Text.ofString line ++ ['\n']

/-- What the program does and how it is called. -/
def usageLines : List String :=
  ["Find Arabic text inside string literals", "", "Usage: arabic-rtl [OPTIONS] [PATH]", "",
    "Arguments:"]

/-- Help with a line for each parameter. -/
def briefHelp : Text :=
  Text.ofLines (usageLines ++
    ["  [PATH]  File to scan (reads stdin when omitted or \"-\")",
      "",
      "Options:",
      "  -s, --strategy <STRATEGY>  Extraction strategy: lexical or syntax (defaults to config)",
      "  -l, --language <LANG>      Language for the syntax strategy (defaults to the file extension)",
      "  -f, --format <FORMAT>      Output format [default: text] [possible values: text, json]",
      "      --config <FILE>        Config file (defaults to ~/.config/arabic-rtl/config.yaml)",
      "  -h, --help                 Print help (see more with '--help')",
      "  -V, --version              Print version"])

/-- Help in detail. -/
def detailedHelp : Text :=
  Text.ofLines (usageLines ++
    ["  [PATH]",
      "          File to scan (reads stdin when omitted or \"-\")",
      "",
      "Options:",
      "  -s, --strategy <STRATEGY>",
      "          Extraction strategy: lexical or syntax (defaults to config)",
      "",
      "  -l, --language <LANG>",
      "          Language for the syntax strategy (defaults to the file extension)",
      "",
      "  -f, --format <FORMAT>",
      "          Output format",
      "",
      "          Possible values:",
      "          - text: `line:start-end<TAB>text`, one match per line",
      "          - json: JSON array of matches",
      "          ",
      "          [default: text]",
      "",
      "      --config <FILE>",
      "          Config file (defaults to ~/.config/arabic-rtl/config.yaml)",
      "",
      "  -h, --help",
      "          Print help (see a summary with '-h')",
      "",
      "  -V, --version",
      "          Print version"])

/-- The name and the version of the program. -/
def versionText : Text :=
  Text.ofString Environment.programName ++ Text.ofString " 0.1.0\n"

end RtlLiterals
