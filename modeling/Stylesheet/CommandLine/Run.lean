import Stylesheet.CommandLine.Options
import Stylesheet.Input
import Stylesheet.TextFile

/-!
# A run of the program

A run takes the arguments of a call and a tree of files, and gives what is printed, how the run
ends, and the tree after it. Only a run that ends with code 0 writes a file.

What is dumped are tokens of a text. Their positions are bounded by its length, so the limit on the digits of an
integer is not looked at: a dump is refused for no text that has fewer than `10 ^ 4300 - 1` characters
(`Format.render_filter_tokenize`).
-/

namespace Stylesheet.CommandLine

/-- How a run ends. -/
inductive Ending where
  /-- It returns a code. -/
  | returned (code : Nat)
  /-- The arguments end it with a code: 0 for the description, 2 for a refusal. -/
  | stopped (code : Nat)
  /-- It breaks off. -/
  | broken (b : Breakdown)
  deriving DecidableEq, Repr

/-- What a run does. -/
structure Outcome where
  /-- How it ends. -/
  ending : Ending
  /-- What is printed as the result. -/
  stdout : String
  /-- What is printed besides. -/
  stderr : String
  /-- The files after it. -/
  files : FileTree
  deriving DecidableEq, Repr

/-- Why a stylesheet gives no tokens. -/
inductive SourceFailure where
  /-- Its file cannot be read; the reason is given in words. -/
  | unreadable (reason : String)
  /-- Its file name can belong to no file. -/
  | impossible (fault : FileFault)
  /-- Its text is not a stylesheet. -/
  | lex (e : LexError)
  deriving DecidableEq, Repr

/-- The text of a stylesheet file. -/
def readSource (t : FileTree) (p : Path) : Except SourceFailure String :=
  match t.readText p with
  | .ok text => .ok text
  | .error (.file .nullInName) => .error (.impossible .nullInName)
  | .error fault => .error (.unreadable (fault.message p))

/-- The tokens of a stylesheet file, without those to leave out. -/
def fileTokens (t : FileTree) (o : Options) : Except SourceFailure (List Token) := do
  let source ← readSource t o.input
  let all ← (tokens source).mapError .lex
  return all.filter fun token => !o.skip.contains token.type

/-- Prints a dump, or writes it to the output file. -/
def deliver (t : FileTree) (o : Options) (kept : List Token) : Outcome :=
  let counts := if o.debug then summary kept else ""
  let dump := o.format.format.dump kept
  match o.output with
  | none => ⟨.returned 0, dump, counts, t⟩
  | some path =>
    match t.write path (Text.Utf8.encode dump.toList) with
    | .ok files => ⟨.returned 0, "", counts, files⟩
    | .error fault => ⟨.broken (.file fault path), "", counts, t⟩

/-- Does what options say. -/
def work (t : FileTree) (o : Options) : Outcome :=
  match fileTokens t o with
  | .ok kept => deliver t o kept
  | .error (.lex e) => ⟨.returned 1, "", e.report o.input.text ++ "\n", t⟩
  | .error (.unreadable reason) =>
    ⟨.returned 2, "", "error: cannot read " ++ o.input.text ++ ": " ++ reason ++ "\n", t⟩
  | .error (.impossible fault) => ⟨.broken (.file fault o.input), "", "", t⟩

/-- The outcome of a call whose arguments ask for no work. -/
def stop (t : FileTree) : Option UsageError → Outcome
  | none => ⟨.stopped 0, helpText, "", t⟩
  | some e => ⟨.stopped 2, "", usage ++ "scsslex: error: " ++ e.message ++ "\n", t⟩

/-- A run with the given arguments in a tree of files. -/
def run (words : List String) (t : FileTree) : Outcome :=
  match parseArguments words with
  | .error e => stop t (some e)
  | .ok .help => stop t none
  | .ok (.work a) =>
    match resolve t a with
    | .ok o => work t o
    | .error (.rejected e) => ⟨.returned 2, "", "error: " ++ e.message ++ "\n", t⟩
    | .error (.broken b) => ⟨.broken b, "", "", t⟩

end Stylesheet.CommandLine
