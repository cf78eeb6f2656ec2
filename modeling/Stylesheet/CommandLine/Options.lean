import Stylesheet.CommandLine.Arguments
import Stylesheet.FileTree
import Stylesheet.Text.Utf8
import Stylesheet.Toml.Document

/-!
# Options

What a call has to do follows from its arguments and a configuration file. The file is the one
named by the arguments, or else the one beside the input; without a file the configuration is
empty. In it the table `output` may give a format, which the arguments override, and types of
token to leave out, which add to those of the arguments.
-/

namespace Stylesheet.CommandLine

/-- What a call has to do. -/
structure Options where
  /-- The stylesheet to read. -/
  input : Path
  /-- The file to write, unless the dump is printed. -/
  output : Option Path
  /-- The format of the dump. -/
  format : FormatChoice
  /-- The types of token to leave out; order and repetition mean nothing. -/
  skip : List TokenType
  /-- Whether to count the tokens. -/
  debug : Bool
  deriving DecidableEq, Repr

/-- The names of the types to leave out, each once and in alphabetical order. -/
def Options.skipNames (o : Options) : List String :=
  ((TokenType.all.filter o.skip.contains).map TokenType.name).mergeSort

/-! ### What can go wrong -/

/-- Why options are rejected. -/
inductive OptionError where
  /-- The configuration file is not TOML. -/
  | badConfig
  /-- The configuration names no format but this. -/
  | badFormat (shown : String)
  /-- There is no type of token of this name, or no name was given. -/
  | unknownType (name : Option String)
  deriving DecidableEq, Repr

/-- The wording of a rejection. -/
def OptionError.message : OptionError → String
  | .badConfig => "invalid config file: <toml>"
  | .badFormat shown => "invalid output format in config: " ++ shown
  | .unknownType name =>
    "unknown token type " ++ name.elim "[]" Text.quoted ++ " (expected one of: " ++
      ", ".intercalate (TokenType.all.map TokenType.name) ++ ")"

/-- A failure that a call has no answer to, so that it breaks off. -/
inductive Breakdown where
  /-- A file cannot be reached or written. -/
  | file (fault : FileFault) (path : Path)
  /-- The configuration file is not UTF-8. -/
  | encoding (fault : Text.Utf8.Fault)
  /-- A whole number in the configuration file has too many digits to be read. -/
  | longNumeral (digits : Nat)
  /-- Too many values stand within each other in the configuration file. -/
  | deepNesting
  /-- A value of the configuration cannot be shown. -/
  | unshowable (u : Toml.Unshowable)
  deriving DecidableEq, Repr

/-- The wording of a breakdown. -/
def Breakdown.message : Breakdown → String
  | .file fault path => fault.message path
  | .encoding fault => fault.message
  | .longNumeral digits =>
    Text.digitLimit ++ ": value has " ++ Text.numeral digits ++ " digits" ++ Text.digitAdvice
  | .deepNesting => depth
  | .unshowable .longInteger => Text.Unwritable.longInteger.message
  | .unshowable .tooDeep => depth ++ " while getting the repr of an object"
where
  /-- What happens at the limit of nesting. -/
  depth : String := "maximum recursion depth exceeded"

/-- Why there are no options. -/
inductive OptionFailure where
  /-- They are rejected. -/
  | rejected (e : OptionError)
  /-- Finding them out broke off. -/
  | broken (b : Breakdown)
  deriving DecidableEq, Repr

/-! ### The configuration file -/

/-- A configuration: the entries of its file. -/
abbrev Config := List (String × Toml.Value)

/-- The name of the configuration file beside an input. -/
def configName : String := "scsslex.toml"

/-- The configuration file to look for. An empty name counts as none. -/
def configPath (a : Arguments) : Path :=
  match a.config with
  | some name => if name = "" then beside else Path.ofString name
  | none => beside
where
  /-- The configuration file beside the input. -/
  beside : Path := (Path.ofString a.input).parent.child configName

/-- The configuration that octets hold. -/
def readConfig (octets : List UInt8) : Except OptionFailure Config :=
  match Text.Utf8.decode octets with
  | .error fault => .error (.broken (.encoding fault))
  | .ok text =>
    match Toml.parse text with
    | .ok config => .ok config
    | .error .malformed => .error (.rejected .badConfig)
    | .error (.longInteger digits) => .error (.broken (.longNumeral digits))
    | .error .tooDeep => .error (.broken .deepNesting)

/-- The configuration of a call: that of its file, or an empty one if there is no such file. -/
def loadConfig (t : FileTree) (a : Arguments) : Except OptionFailure Config :=
  let path := configPath a
  match t.read path with
  | .ok octets => readConfig octets
  | .error .nameTooLong => .error (.broken (.file .nameTooLong path))
  | .error _ => .ok []

/-! ### Merging -/

/-- The table `output` of a configuration; anything else of that name counts as empty. -/
def outputTable (c : Config) : Config :=
  match c.lookup "output" with
  | some (.table entries) => entries
  | _ => []

/-- A value shown in a message. -/
def shown (text : Except Toml.Unshowable String) : Except OptionFailure String :=
  text.mapError fun u => .broken (.unshowable u)

/-- The format a configuration gives, if it gives one. -/
def configFormat (output : Config) : Except OptionFailure (Option Format) :=
  match output.lookup "format" with
  | none => .ok none
  | some v =>
    match formatOf? v with
    | some format => .ok (some format)
    | none => do
      let text ← shown v.literal
      throw (.rejected (.badFormat text))
where
  /-- The format that a value names. -/
  formatOf? : Toml.Value → Option Format
    | .string name => Format.ofName? name
    | _ => none

/-- The type of token of a name. -/
def parseType (name : String) : Except OptionError TokenType :=
  match TokenType.ofName? name with
  | some type => .ok type
  | none => .error (.unknownType (some name))

/-- The types of token that flags are given, or the first one that is none. -/
def parseTypes : List (Option String) → Except OptionFailure (List TokenType)
  | [] => .ok []
  | none :: _ => .error (.rejected (.unknownType none))
  | some name :: rest => do
    let type ← (parseType name).mapError .rejected
    let types ← parseTypes rest
    return type :: types

/-- The types of token that values name. -/
def valueTypes : List Toml.Value → Except OptionFailure (List TokenType)
  | [] => .ok []
  | v :: rest => do
    let name ← shown v.bare
    let type ← (parseType name).mapError .rejected
    let types ← valueTypes rest
    return type :: types

/-- The types of token that a configuration leaves out; only a list counts. -/
def configSkip (output : Config) : Except OptionFailure (List TokenType) :=
  match output.lookup "skip" with
  | some (.array items) => valueTypes items
  | _ => .ok []

/-- The options of a configuration and arguments. The configuration's format is checked even if
the arguments give one. -/
def merge (c : Config) (a : Arguments) : Except OptionFailure Options := do
  let output := outputTable c
  let format ← configFormat output
  let fromConfig ← configSkip output
  let fromArguments ← parseTypes a.skip
  return {
    input := Path.ofString a.input
    output := (a.output.filter (· != "")).map Path.ofString
    format := (a.format <|> format.map FormatChoice.named).getD (.named .text)
    skip := fromConfig ++ fromArguments
    debug := a.debug }

/-- The options of a call in a tree of files. -/
def resolve (t : FileTree) (a : Arguments) : Except OptionFailure Options := do
  let c ← loadConfig t a
  merge c a

end Stylesheet.CommandLine
