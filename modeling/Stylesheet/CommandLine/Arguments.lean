import Stylesheet.CommandLine.Flag
import Stylesheet.Dump
import Stylesheet.Text.DecimalDigit
import Stylesheet.Text.Parts

/-!
# Arguments

The arguments of a call are first told apart: flags, with or without a value attached, plain
words, and the separator after which every word is plain. Then they are taken in from left to
right. The first plain word names the input; a flag that takes a value and has none attached
takes the next plain word.

A flag may be written by its long name or any beginning of it that no other flag shares, or by
its letter. A value is attached behind an equals sign, or directly behind the letter; behind the
letter of a flag that takes none stand letters of further flags. The separator is never a value:
attached to a flag that takes one, it gives the flag nothing.
-/

namespace Stylesheet.CommandLine

/-- Why a call is refused. -/
inductive UsageError where
  /-- The beginning of a long name fits several flags. -/
  | ambiguous (word : String) (flags : List Flag)
  /-- A flag lacks its value. -/
  | valueMissing (flag : Flag)
  /-- A flag that takes no value was given one. -/
  | valueIgnored (flag : Flag) (value : String)
  /-- There is no such format. -/
  | unknownFormat (value : String)
  /-- No input is named. -/
  | inputMissing
  /-- Words that mean nothing here. -/
  | unrecognized (words : List String)
  deriving DecidableEq, Repr

/-- The wording of a refusal. -/
def UsageError.message : UsageError → String
  | .ambiguous word flags =>
    "ambiguous option: " ++ word ++ " could match " ++ ", ".intercalate (flags.map Flag.long)
  | .valueMissing flag => "argument " ++ flag.label ++ ": expected one argument"
  | .valueIgnored flag value =>
    "argument " ++ flag.label ++ ": ignored explicit argument " ++ Text.quoted value
  | .unknownFormat value =>
    "argument " ++ Flag.format.label ++ ": invalid choice: " ++ Text.quoted value ++
      " (choose from " ++ ", ".intercalate (Format.all.map fun f => Text.quoted f.name) ++ ")"
  | .inputMissing => "the following arguments are required: input"
  | .unrecognized words => "unrecognized arguments: " ++ " ".intercalate words

/-! ### Telling words apart -/

/-- The text attached to a flag. -/
inductive Attachment where
  /-- There is none. -/
  | none
  /-- To its long name, behind an equals sign. -/
  | toName (text : String)
  /-- To its letter, with or without an equals sign between them. -/
  | toLetter (text : String)
  deriving DecidableEq, Repr

/-- An argument as it is told apart. -/
inductive Word where
  /-- A plain word: an input, or a value of the flag before it. -/
  | plain (text : String)
  /-- A flag. -/
  | flag (flag : Flag) (attached : Attachment)
  /-- It looks like a flag, but there is none of this name. -/
  | unknown (text : String)
  /-- The separator. -/
  | separator
  deriving DecidableEq, Repr

/-- Whether a word is a negative number: digits, or digits around a point, behind a minus sign.
A line feed may end it. -/
def isNegativeNumber (word : List Char) : Bool :=
  match word with
  | '-' :: rest =>
    let body := if rest.getLast? = some '\n' then rest.dropLast else rest
    match body.dropWhile Text.isDecimalDigit with
    | [] => !body.isEmpty
    | '.' :: fraction => !fraction.isEmpty && fraction.all Text.isDecimalDigit
    | _ => false
  | _ => false

/-- A word that begins with a minus sign and names no flag: plain if it is a negative number or
holds a space. -/
def unnamed (word : String) : Word :=
  if isNegativeNumber word.toList || word.toList.contains ' ' then .plain word else .unknown word

/-- Tells a word apart that begins with two minus signs: a long name or a beginning of one,
perhaps with a value. -/
def classifyLong (word : String) : Except UsageError Word :=
  let (left, right) := Text.cut '=' word.toList
  let attached := right.elim .none fun value => .toName (String.ofList value)
  let name := String.ofList left
  match Flag.all.find? (·.long == name) with
  | some flag => .ok (.flag flag attached)
  | none =>
    match Flag.startingWith name with
    | [flag] => .ok (.flag flag attached)
    | [] => .ok (unnamed word)
    | flags => .error (.ambiguous word flags)

/-- Tells a word apart that begins with one minus sign and a further character. -/
def classifyLetter (word : String) (c : Char) (rest : List Char) : Word :=
  match Flag.ofLetter? c with
  | none => unnamed word
  | some flag =>
    match rest with
    | [] => .flag flag .none
    | '=' :: value => .flag flag (.toLetter (String.ofList value))
    | _ => .flag flag (.toLetter (String.ofList rest))

/-- Tells a word apart. -/
def classify (word : String) : Except UsageError Word :=
  match word.toList with
  | ['-', '-'] => .ok .separator
  | '-' :: '-' :: _ => classifyLong word
  | '-' :: c :: rest => .ok (classifyLetter word c rest)
  | _ => .ok (.plain word)

/-- Tells all words apart; behind the separator all are plain. -/
def classifyAll : List String → Except UsageError (List Word)
  | [] => .ok []
  | word :: rest => do
    let w ← classify word
    match w with
    | .separator => return .separator :: rest.map .plain
    | _ =>
      let ws ← classifyAll rest
      return w :: ws

/-! ### Taking words in -/

/-- The format that a flag asks for. -/
inductive FormatChoice where
  /-- This one. -/
  | named (format : Format)
  /-- None in particular: the flag is given nothing. -/
  | blank
  deriving DecidableEq, Repr

/-- The format of the dump; it is text if none is named. -/
def FormatChoice.format : FormatChoice → Format
  | .named format => format
  | .blank => .text

/-- The arguments of a call. -/
structure Arguments where
  /-- The input as named. -/
  input : String
  /-- The output as named. -/
  output : Option String
  /-- The format asked for. -/
  format : Option FormatChoice
  /-- The types to leave out, as named; a flag that is given nothing names none. -/
  skip : List (Option String)
  /-- The configuration file as named. -/
  config : Option String
  /-- Whether to count the tokens. -/
  debug : Bool
  deriving DecidableEq, Repr

/-- The arguments as far as they have been taken in. -/
structure Draft where
  /-- The input, once it is named. -/
  input : Option String
  /-- The output. -/
  output : Option String
  /-- The format. -/
  format : Option FormatChoice
  /-- The types to leave out. -/
  skip : List (Option String)
  /-- The configuration file. -/
  config : Option String
  /-- Whether to count. -/
  debug : Bool
  /-- Words that mean nothing here. -/
  extras : List String
  deriving DecidableEq, Repr

/-- What comes of the arguments of a call. -/
inductive Request where
  /-- Show the description. -/
  | help
  /-- Do the work. -/
  | work (arguments : Arguments)
  deriving DecidableEq, Repr

namespace Draft

/-- Nothing has been taken in. -/
def empty : Draft := ⟨none, none, none, [], none, false, []⟩

/-- The value that a text gives to a flag: the separator gives none. -/
def valueOf? (text : String) : Option String := if text = "--" then none else some text

/-- The format that a value asks for. -/
def chooseFormat : Option String → Except UsageError FormatChoice
  | none => .ok .blank
  | some name =>
    match Format.ofName? name with
    | some format => .ok (.named format)
    | none => .error (.unknownFormat name)

/-- Takes in the text given to a flag. -/
def withValue (d : Draft) (flag : Flag) (text : String) : Except UsageError Draft :=
  match flag with
  | .output => .ok { d with output := valueOf? text }
  | .format => do
    let choice ← chooseFormat (valueOf? text)
    return { d with format := some choice }
  | .skip => .ok { d with skip := d.skip ++ [valueOf? text] }
  | .config => .ok { d with config := valueOf? text }
  | .help => .ok d
  | .debug => .ok { d with debug := true }

/-- The arguments, once all words have been taken in. -/
def finish (d : Draft) : Except UsageError Arguments :=
  match d.input with
  | none => .error .inputMissing
  | some input =>
    if d.extras.isEmpty then .ok ⟨input, d.output, d.format, d.skip, d.config, d.debug⟩
    else .error (.unrecognized d.extras)

end Draft

/-- Checks what is attached to the letter of a flag that takes no value: letters of further
flags. One that takes a value takes what stands behind it, or else the next plain word. -/
def checkLetters (next : Option Word) (flag : Flag) : List Char → Except UsageError Unit
  | [] => .error (.valueIgnored flag "")
  | c :: rest =>
    match Flag.ofLetter? c with
    | none => .error (.valueIgnored flag (String.ofList (c :: rest)))
    | some further =>
      match further.takesValue, rest with
      | true, [] =>
        match next with
        | some (.plain _) => .ok ()
        | _ => .error (.valueMissing further)
      | true, _ => .ok ()
      | false, [] => .ok ()
      | false, _ => checkLetters next further rest

/-- Takes in words from left to right. The separator is dropped where it stands right before or
right behind the input, and counts as a word that means nothing elsewhere. -/
def takeIn (d : Draft) : List Word → Except UsageError Request
  | [] => d.finish.map .work
  | .plain text :: rest =>
    match d.input, rest with
    | none, .separator :: rest => takeIn { d with input := some text } rest
    | none, rest => takeIn { d with input := some text } rest
    | some _, rest => takeIn { d with extras := d.extras ++ [text] } rest
  | .separator :: rest =>
    match d.input, rest with
    | none, .plain text :: rest => takeIn { d with input := some text } rest
    | _, rest => takeIn { d with extras := d.extras ++ ["--"] } rest
  | .unknown text :: rest => takeIn { d with extras := d.extras ++ [text] } rest
  | .flag flag attached :: rest =>
    match flag.takesValue, attached with
    | true, .none =>
      match rest with
      | .plain value :: rest => do
        let d ← d.withValue flag value
        takeIn d rest
      | _ => .error (.valueMissing flag)
    | true, .toName text => do
      let d ← d.withValue flag text
      takeIn d rest
    | true, .toLetter text => do
      let d ← d.withValue flag text
      takeIn d rest
    | false, .toName text => .error (.valueIgnored flag text)
    | false, .toLetter letters => do
      checkLetters rest.head? flag letters.toList
      return .help
    | false, .none =>
      match flag with
      | .help => .ok .help
      | _ => takeIn { d with debug := true } rest

/-- What the arguments of a call ask for. -/
def parseArguments (words : List String) : Except UsageError Request := do
  let ws ← classifyAll words
  takeIn .empty ws

end Stylesheet.CommandLine
