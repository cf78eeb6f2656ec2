/-!
# Flags

The flags of the command line and the texts that describe them.
-/

namespace Stylesheet.CommandLine

/-- A flag. -/
inductive Flag where
  /-- Show how to call the program. -/
  | help
  /-- Where to write the dump. -/
  | output
  /-- In which format to dump. -/
  | format
  /-- Which type of token to leave out; may be given again and again. -/
  | skip
  /-- Which configuration file to use. -/
  | config
  /-- Count the tokens. -/
  | debug
  deriving DecidableEq, Repr

namespace Flag

/-- Every flag, in listing order. -/
def all : List Flag := [.help, .output, .format, .skip, .config, .debug]

/-- The long name. -/
def long : Flag → String
  | .help => "--help"
  | .output => "--output"
  | .format => "--format"
  | .skip => "--skip"
  | .config => "--config"
  | .debug => "--debug"

/-- The letter of the short name, if there is one. -/
def letter : Flag → Option Char
  | .help => some 'h'
  | .output => some 'o'
  | .format => some 'f'
  | _ => none

/-- Whether a value belongs to it. -/
def takesValue : Flag → Bool
  | .help => false
  | .debug => false
  | _ => true

/-- All names, as messages show them. -/
def label (f : Flag) : String :=
  match f.letter with
  | some c => String.ofList ['-', c] ++ "/" ++ f.long
  | none => f.long

/-- The flag of a letter. -/
def ofLetter? (c : Char) : Option Flag := all.find? (·.letter == some c)

/-- The flags whose long name begins in this way. -/
def startingWith (text : String) : List Flag :=
  all.filter fun f => text.toList.isPrefixOf f.long.toList

end Flag

/-! ### Descriptions -/

/-- How to call the program. -/
def usage : String :=
  "usage: scsslex [-h] [-o OUTPUT] [-f \x7btext,json\x7d] [--skip TYPE] [--config FILE]\n" ++
  "               [--debug]\n" ++
  "               input\n"

/-- The full description. -/
def helpText : String :=
  usage ++
  "\n" ++
  "Tokenize an SCSS stylesheet and dump its tokens\n" ++
  "\n" ++
  "positional arguments:\n" ++
  "  input                 Input .scss file\n" ++
  "\n" ++
  "options:\n" ++
  "  -h, --help            show this help message and exit\n" ++
  "  -o OUTPUT, --output OUTPUT\n" ++
  "                        Output file (default: stdout)\n" ++
  "  -f \x7btext,json\x7d, --format \x7btext,json\x7d\n" ++
  "                        Dump format (default: text)\n" ++
  "  --skip TYPE           Token type to omit from the dump (repeatable)\n" ++
  "  --config FILE         Config file (default: auto-discover scsslex.toml)\n" ++
  "  --debug               Print token counts to stderr\n"

end Stylesheet.CommandLine
