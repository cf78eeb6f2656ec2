import Stylesheet.CommandLine.Run
import Stylesheet.Workspace
import Stylesheet.Proofs.Encoding
import Stylesheet.Proofs.Reading

/-!
# What a call and an editor say about one stylesheet

A stylesheet can be checked in two ways: by a call of the program on its file, and by opening it in
an editor. Both read tokens up to the first error, but they come by the text differently. A file is
decoded, and its line ends are made line feeds; a document is read as the editor tells it.

So a call on a file says what the editor says about the text with unified line ends, message, line
and column included (`Concurs`), and thus what it says about the text itself if no carriage return
is in it. Main statement: `run_concurs`. A carriage return in code is a line end to the call and an
error to the editor, and the two do not concur then (`not_concurs_carriage_return`).
-/

namespace Stylesheet

/-! ### The text of a file -/

namespace Text

/-- A text without carriage returns has unified line ends. -/
theorem unified_eq_self {text : List Char} (h : '\r' ∉ text) : unified text = text := by
  fun_induction unified text with
  | case1 rest _ => exact absurd List.mem_cons_self h
  | case2 rest _ _ => exact absurd List.mem_cons_self h
  | case3 c rest _ _ ih => rw [ih fun hmem => h (List.mem_cons_of_mem c hmem)]
  | case4 => rfl

end Text

/-- A file that holds the octets of a text gives the text with unified line ends. -/
theorem FileTree.readText_encode {t : FileTree} {p : Path} {text : List Char}
    (h : t.read p = .ok (Text.Utf8.encode text)) : t.readText p = .ok (String.ofList (Text.unified text)) := by
  rw [readText, h]
  simp only [Text.Utf8.decode_encode]

/-! ### A document that is opened -/

/-- Opening a document publishes the diagnostics of its text. -/
theorem Workspace.handle_opened {uri : String} {u : Uri} (h : Uri.parse uri = .ok u) (t : FileTree) (w : Workspace)
    (text : String) : w.handle t (.opened uri text) = .ok (⟨uri, Diagnostic.ofText text⟩, w.store uri text) := by
  have hupdate : w.update (.opened uri text) = .ok (w.store uri text) := by
    rw [update, h]
    rfl
  have htext : (w.store uri text).text t uri = .ok text := by
    rw [Workspace.text, text?_store_self]
  simp only [handle, hupdate, DocumentEvent.uri, bind, Except.bind, htext]
  rfl

namespace CommandLine

/-! ### A call on a file -/

/-- A plain word alone names the input, and everything else is left open. -/
theorem parseArguments_plain {path : String} (h : classify path = .ok (.plain path)) :
    parseArguments [path] = .ok (.work ⟨path, none, none, [], none, false⟩) := by
  simp only [parseArguments, classifyAll, h, bind, Except.bind]
  rfl

/-- Without a configuration file the dump is printed as text, with all tokens. -/
theorem resolve_plain {t : FileTree} {path : String} {fault : FileFault}
    (h : t.read ((Path.ofString path).parent.child configName) = .error fault) (hfault : fault ≠ .nameTooLong) :
    resolve t ⟨path, none, none, [], none, false⟩ = .ok ⟨Path.ofString path, none, .named .text, [], false⟩ := by
  have hload : loadConfig t ⟨path, none, none, [], none, false⟩ = .ok [] := by
    simp only [loadConfig, configPath, configPath.beside]
    rw [h]
    cases fault with
    | nameTooLong => exact absurd rfl hfault
    | _ => rfl
  rw [resolve, hload]
  rfl

/-- **A call on a file** that has no configuration beside it reads the file's text with unified line
ends. It reports the first error and returns 1, or prints the tokens and returns 0. -/
theorem run_plain {t : FileTree} {path : String} {text : List Char} {fault : FileFault}
    (hword : classify path = .ok (.plain path))
    (hconfig : t.read ((Path.ofString path).parent.child configName) = .error fault) (hfault : fault ≠ .nameTooLong)
    (hfile : t.read (Path.ofString path) = .ok (Text.Utf8.encode text)) :
    run [path] t = match (tokenize (String.ofList (Text.unified text))).failure with
      | none => ⟨.returned 0, Format.text.dump (tokenize (String.ofList (Text.unified text))).tokens, "", t⟩
      | some e => ⟨.returned 1, "", e.report (Path.ofString path).text ++ "\n", t⟩ := by
  have hsource : readSource t (Path.ofString path) = .ok (String.ofList (Text.unified text)) := by
    rw [readSource, FileTree.readText_encode hfile]
  have hkeep : ∀ ts : List Token, (ts.filter fun token => !([] : List TokenType).contains token.type) = ts := by
    intro ts
    rw [List.filter_eq_self]
    intro token _
    rfl
  rw [run, parseArguments_plain hword]
  simp only [resolve_plain hconfig hfault, work, fileTokens, hsource, bind, Except.bind, tokens]
  cases (tokenize (String.ofList (Text.unified text))).failure with
  | none =>
    simp only [Except.mapError, pure, Except.pure, hkeep, deliver]
    rfl
  | some e => rfl

/-! ### Agreement -/

/-- `Concurs file o ds`: the outcome of a call on `file` and the diagnostics of a document say the
same. -/
structure Concurs (file : String) (o : Outcome) (ds : List Diagnostic) : Prop where
  /-- The call returns 1 where there is one diagnostic. -/
  fails : o.ending = .returned 1 ↔ ∃ d, ds = [d]
  /-- The call returns 0 where there is none. -/
  succeeds : o.ending = .returned 0 ↔ ds = []
  /-- The report has the message of the diagnostic, and behind the name of the file its line, counted
  from 1, and its column. -/
  report : ∀ d ∈ ds, ∃ (n : Nat) (more : String),
    o.stderr = "error: " ++ d.message ++ "\n" ++ Text.spaces n ++ "--> " ++ file ++ ":" ++
      Text.integer (d.start.line + 1) ++ ":" ++ Text.integer d.start.character ++ "\n" ++ more

/-- A report begins with the message, and with the place behind the name of the file. -/
theorem report_eq (e : LexError) {p : Position} (h : e.position = some p) (file : String) :
    ∃ (n : Nat) (more : String), e.report file =
      "error: " ++ e.message ++ "\n" ++ Text.spaces n ++ "--> " ++ file ++ ":" ++
      Text.integer p.line ++ ":" ++ Text.integer p.column ++ "\n" ++ more := by
  refine ⟨(Text.integer p.line).length + 1, "\n".intercalate (LexError.excerpt file (e.source.getD "") p).tail, ?_⟩
  rw [LexError.report, h]
  simp only [LexError.excerpt, List.tail_cons, String.intercalate_cons_cons, String.append_assoc]
  rfl

/-- The outcome of a call that has read a source concurs with the diagnostics of the source. -/
theorem concurs_ofText (source file dump : String) (t : FileTree) :
    Concurs file
      (match (tokenize source).failure with
        | none => ⟨.returned 0, dump, "", t⟩
        | some e => ⟨.returned 1, "", e.report file ++ "\n", t⟩)
      (Diagnostic.ofText source) := by
  rw [Diagnostic.ofText]
  cases hfailure : (tokenize source).failure with
  | none => exact ⟨by simp, by simp, by simp⟩
  | some e =>
    obtain ⟨p, hp⟩ : ∃ p, e.position = some p := by
      obtain ⟨ls, c, rest, -, rfl⟩ := exists_cuts_of_failure hfailure
      exact ⟨_, rfl⟩
    obtain ⟨n, more, hreport⟩ := report_eq e hp file
    refine ⟨by simp, by simp, ?_⟩
    intro d hd
    obtain rfl : d = Diagnostic.ofError e := by simpa using hd
    refine ⟨n, more ++ "\n", ?_⟩
    simp only [Diagnostic.ofError, hp, Option.elim_some, Int.sub_add_cancel, hreport, String.append_assoc]

/-- **A call and an editor say the same** about a stylesheet whose line ends are unified. The
directory of the file has no configuration. Whatever the text is, the call on its file concurs with
what is published about a document that has the text with unified line ends; if the text has no
carriage return, that is the text itself. -/
theorem run_concurs {t : FileTree} {path text : String} {fault : FileFault}
    (hword : classify path = .ok (.plain path))
    (hconfig : t.read ((Path.ofString path).parent.child configName) = .error fault) (hfault : fault ≠ .nameTooLong)
    (hfile : t.read (Path.ofString path) = .ok (Text.Utf8.encode text.toList))
    {uri : String} {u : Uri} (huri : Uri.parse uri = .ok u) (t' : FileTree) (w : Workspace) :
    (∃ ds w', w.handle t' (.opened uri (String.ofList (Text.unified text.toList))) = .ok (⟨uri, ds⟩, w') ∧
      Concurs (Path.ofString path).text (run [path] t) ds) ∧
    ('\r' ∉ text.toList →
      ∃ ds w', w.handle t' (.opened uri text) = .ok (⟨uri, ds⟩, w') ∧
        Concurs (Path.ofString path).text (run [path] t) ds) := by
  have hconcurs : Concurs (Path.ofString path).text (run [path] t)
      (Diagnostic.ofText (String.ofList (Text.unified text.toList))) := by
    rw [run_plain hword hconfig hfault hfile]
    exact concurs_ofText _ _ _ _
  constructor
  · exact ⟨_, _, Workspace.handle_opened huri t' w _, hconcurs⟩
  · intro hreturn
    rw [Text.unified_eq_self hreturn, String.ofList_toList] at hconcurs
    exact ⟨_, _, Workspace.handle_opened huri t' w text, hconcurs⟩

/-- A tree with a stylesheet of the given text, and nothing beside it. -/
def sheetTree (text : String) : FileTree :=
  (FileTree.ofWorking ["site"]).addFile ["site", "a.scss"] (Text.Utf8.encode text.toList)

/-- An error on the second line, behind a comment with a character of three octets. -/
theorem run_concurs_second_line :
    (run ["a.scss"] (sheetTree "/*→\n*/a ?")).ending = .returned 1 ∧
    ∃ ds w', Workspace.empty.handle (sheetTree "") (.opened "file:///site/a.scss" "/*→\n*/a ?") =
        .ok (⟨"file:///site/a.scss", ds⟩, w') ∧
      Concurs "a.scss" (run ["a.scss"] (sheetTree "/*→\n*/a ?")) ds := by
  have hword : classify "a.scss" = .ok (.plain "a.scss") := by decide +kernel
  have hconfig : (sheetTree "/*→\n*/a ?").read ((Path.ofString "a.scss").parent.child configName) =
      .error .notFound := by
    decide +kernel
  have hfile : (sheetTree "/*→\n*/a ?").read (Path.ofString "a.scss") =
      .ok (Text.Utf8.encode "/*→\n*/a ?".toList) := by
    decide +kernel
  have huri : Uri.parse "file:///site/a.scss" = .ok ⟨"file", [], "/site/a.scss".toList⟩ := by decide +kernel
  have hconcurs := (run_concurs hword hconfig (by decide) hfile huri (sheetTree "") Workspace.empty).2 (by decide)
  have hname : (Path.ofString "a.scss").text = "a.scss" := by decide +kernel
  rw [hname] at hconcurs
  exact ⟨by decide +kernel, hconcurs⟩

/-- A carriage return between tokens is a line end to the call, which returns 0. To the editor it is
a character that opens no lexeme. -/
theorem not_concurs_carriage_return :
    (run ["a.scss"] (sheetTree "a\r\nb")).ending = .returned 0 ∧
    ∃ d w', d.message = "Can't handle character: \"\r\"" ∧
      Workspace.empty.handle (sheetTree "a\r\nb") (.opened "file:///site/a.scss" "a\r\nb") =
        .ok (⟨"file:///site/a.scss", [d]⟩, w') ∧
      ¬ Concurs "a.scss" (run ["a.scss"] (sheetTree "a\r\nb")) [d] := by
  have hends : (run ["a.scss"] (sheetTree "a\r\nb")).ending = .returned 0 := by decide +kernel
  refine ⟨hends, ⟨⟨0, 1⟩, ⟨0, 2⟩, "Can't handle character: \"\r\"", 1, "scsslex"⟩,
    Workspace.empty.store "file:///site/a.scss" "a\r\nb", rfl, by decide +kernel, ?_⟩
  intro hconcurs
  exact absurd (hconcurs.succeeds.1 hends) (List.cons_ne_nil _ _)

end CommandLine

end Stylesheet
