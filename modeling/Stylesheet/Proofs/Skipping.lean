import Stylesheet.Proofs.Effects
import Stylesheet.Proofs.ExitCodes
import Stylesheet.Proofs.JsonDump
import Stylesheet.Proofs.Summary

/-!
# What leaving out types changes, and what it does not

The types to leave out, the format, the output and the count are about what is shown of a stylesheet, not
about how it is read. So two calls on one input report the same error, if they report one (`run_skip`).

Each of the three ways to show tokens can be told, part by part, which type a part is about: the second
column of a line in a text dump (`dumpedType?`), a member of an object in a JSON dump (`describedType?`), the first
word of a line in a summary (`summaryType?`). Leaving out further types deletes the parts about them and
keeps all other parts as they are, and in their order (`Thins`): showing what is left of some tokens is leaving
parts of what is shown of all of them (`lines_textDump_filter`, `read_dump_filter`,
`linesAbout_summary_filter`).
-/

namespace Stylesheet

/-! ### Text -/

/-- The type that a line of a text dump is about: its second column. -/
def dumpedType? (l : List Char) : Option TokenType :=
  TokenType.ofName? (String.ofList (Text.takeWord (Text.takeWord l.dropLast).2).1)

theorem dumpedType?_plainLine (t : Token) : dumpedType? t.plainLine.toList = some t.type := by
  rw [dumpedType?, Token.toList_plainLine, List.dropLast_concat, Token.takeWord_body, Token.takeWord_type,
    String.ofList_toList, TokenType.ofName?_name]

/-- The text dump of some of the tokens has the lines about their types. -/
theorem lines_textDump_filter (p : TokenType → Bool) (tokens : List Token) :
    Text.lines (textDump (tokens.filter (p ·.type))).toList =
      (Text.lines (textDump tokens).toList).filter fun l => (dumpedType? l).all p := by
  rw [lines_textDump, lines_textDump, List.filter_map]
  simp [Function.comp_def, dumpedType?_plainLine]

/-! ### JSON -/

/-- The type that a value in a JSON dump is about: its member of that name. -/
def describedType? : JsonText.Value → Option TokenType
  | .object members =>
    match members.lookup "type" with
    | some (.string name) => TokenType.ofName? name
    | _ => none
  | _ => none

theorem describedType?_described (t : Token) : describedType? t.described = some t.type :=
  TokenType.ofName?_name t.type

/-- A JSON dump is read as the list of its tokens. -/
theorem read_dump (tokens : List Token) :
    JsonText.read (jsonDump tokens) = some (.array (tokens.map Token.described)) := by
  rw [jsonDump_eq, Json.read_plain_feed, meaning_tokens]

/-- The JSON dump of some of the tokens has the objects about their types. -/
theorem read_dump_filter (p : TokenType → Bool) (tokens : List Token) :
    JsonText.read (jsonDump (tokens.filter (p ·.type))) =
      some (.array ((tokens.map Token.described).filter fun v => (describedType? v).all p)) := by
  rw [read_dump, List.filter_map]
  simp [Function.comp_def, describedType?_described]

/-! ### Summary -/

/-- The summary of some of the tokens has the lines about their types. -/
theorem linesAbout_summary_filter (p : TokenType → Bool) (tokens : List Token) (type : TokenType) :
    linesAbout type (summary (tokens.filter (p ·.type))) = if p type then linesAbout type (summary tokens) else [] := by
  rw [linesAbout_summary, linesAbout_summary, countType_filter]
  cases p type <;> rfl

/-! ### Leaving out further types -/

/-- `Thins T full less`: what is shown of the tokens `less` is what is shown of `full`, where the parts about the
types in `T` are deleted. -/
structure Thins (T : List TokenType) (full less : List Token) : Prop where
  /-- The text dump has a line for each token, and it loses the lines about these types. -/
  text : (Text.lines (textDump full).toList).map dumpedType? = full.map (some ·.type) ∧
    Text.lines (textDump less).toList =
      (Text.lines (textDump full).toList).filter fun l => (dumpedType? l).all fun type => type ∉ T
  /-- The JSON dump has an object for each token, and it loses the objects about these types. -/
  json : ∃ objects, JsonText.read (jsonDump full) = some (.array objects) ∧
    objects.map describedType? = full.map (some ·.type) ∧
    JsonText.read (jsonDump less) =
      some (.array (objects.filter fun v => (describedType? v).all fun type => type ∉ T))
  /-- The summary says nothing of these types, and of any other type what it said. -/
  summary : ∀ type, linesAbout type (summary less) = if type ∈ T then [] else linesAbout type (summary full)

/-- **Leaving out some types deletes what is about them**, and nothing else. -/
theorem thins_filter (T : List TokenType) (tokens : List Token) :
    Thins T tokens (tokens.filter fun token => token.type ∉ T) where
  text := by
    refine ⟨?_, lines_textDump_filter (fun type => type ∉ T) tokens⟩
    rw [lines_textDump]
    simp [Function.comp_def, dumpedType?_plainLine]
  json := by
    refine ⟨_, read_dump tokens, ?_, ?_⟩
    · simp [Function.comp_def, describedType?_described]
    · exact read_dump_filter (fun type => type ∉ T) tokens
  summary := by
    intro type
    rw [linesAbout_summary_filter (fun type => type ∉ T)]
    by_cases hT : type ∈ T
    · simp [hT]
    · simp [hT]

namespace CommandLine

/-- Leaving out the types of two lists is leaving out first the ones and then the others. -/
theorem keptTokens_of_union {S T U : List TokenType} (h : ∀ type, type ∈ U ↔ type ∈ S ∨ type ∈ T) (source : String) :
    keptTokens U source = (keptTokens S source).filter fun token => token.type ∉ T := by
  rw [keptTokens, keptTokens, List.filter_filter]
  refine List.filter_congr fun token _ => ?_
  simp [h, not_or, Bool.and_comm]

/-- A type that is left out has no line in a summary. -/
theorem linesAbout_summary_keptTokens {skip : List TokenType} {type : TokenType} (h : type ∈ skip) (source : String) :
    linesAbout type (summary (keptTokens skip source)) = [] := by
  rw [keptTokens, linesAbout_summary_filter (fun type => type ∉ skip)]
  simp [h]

/-! ### Two runs on one input -/

/-- The count of the tokens is printed besides, wherever the dump goes. -/
theorem stderr_deliver (t : FileTree) (o : Options) (kept : List Token) :
    (deliver t o kept).stderr = if o.debug then summary kept else "" := by
  unfold deliver
  cases o.output with
  | none => rfl
  | some path =>
    dsimp only
    cases t.write path (Text.Utf8.encode (o.format.format.dump kept).toList) <;> rfl

section

variable {t : FileTree} {o o' : Options}

/-- The options of a call have its input. -/
theorem input_of_resolve {a : Arguments} (h : resolve t a = .ok o) : o.input = Path.ofString a.input := by
  cases hconfig : loadConfig t a with
  | error failure =>
    rw [resolve, hconfig] at h
    cases h
  | ok c =>
    rw [resolve, hconfig] at h
    exact (merge_eq_ok h).2.input

/-- Doing what options say gives 1 only for an error in the stylesheet. -/
theorem failure_of_returned_one (h : (work t o).ending = .returned 1) :
    ∃ source e, t.readText o.input = .ok source ∧ (tokenize source).failure = some e := by
  obtain ⟨-, hwork⟩ | ⟨fault, -, hwork⟩ | ⟨source, e, htext, hfailure, -⟩ | ⟨source, -, -, hwork⟩ := work_stages t o
  · rw [hwork] at h
    cases h
  · rw [hwork] at h
    cases h
  · exact ⟨source, e, htext, hfailure⟩
  · rw [hwork, deliver_ending] at h
    split at h
    · cases h
    · split at h
      · cases h
      · cases h

/-- An error in the stylesheet is the same whatever else is asked for. -/
theorem work_eq_of_returned_one (hinput : o.input = o'.input) (h : (work t o).ending = .returned 1) :
    work t o' = work t o := by
  obtain ⟨source, e, htext, hfailure⟩ := failure_of_returned_one h
  rw [work_of_failure (hinput ▸ htext) hfailure, work_of_failure htext hfailure, hinput]

/-- A run that returns 0 delivers the dump of the tokens that are kept, and prints the count of them if it is
asked for. -/
theorem work_of_returned_zero (h : (work t o).ending = .returned 0) :
    ∃ source, t.readText o.input = .ok source ∧ (tokenize source).failure = none ∧
      Delivers t o.output (o.format.format.dump (keptTokens o.skip source)) (work t o) ∧
      (work t o).stderr = if o.debug then summary (keptTokens o.skip source) else "" := by
  obtain ⟨-, hwork⟩ | ⟨fault, -, hwork⟩ | ⟨source, e, -, -, hwork⟩ | ⟨source, htext, hfailure, hwork⟩ := work_stages t o
  · rw [hwork] at h
    cases h
  · rw [hwork] at h
    cases h
  · rw [hwork] at h
    cases h
  · rw [hwork] at h ⊢
    obtain hidle | ⟨-, hdelivers⟩ := deliver_cases t o (keptTokens o.skip source)
    · exact absurd h hidle.ending
    · exact ⟨source, htext, hfailure, hdelivers, stderr_deliver t o _⟩

end

/-- **The options of a call do not change how its input is read.** Of two calls on one input that have options,
the one returns 1 exactly if the other does, and what is printed besides is the same then. A call that returns 0
delivers the dump of the tokens whose types are not left out, and prints their summary if it is to count. And to
leave out more types is to delete what is about them from the dump, in either format, and from the summary. -/
theorem run_skip {words words' : List String} {t : FileTree} {a a' : Arguments} {o o' : Options}
    (hparse : parseArguments words = .ok (.work a)) (hparse' : parseArguments words' = .ok (.work a'))
    (hinput : a.input = a'.input) (hresolve : resolve t a = .ok o) (hresolve' : resolve t a' = .ok o') :
    ((run words t).ending = .returned 1 ↔ (run words' t).ending = .returned 1) ∧
    ((run words t).ending = .returned 1 → (run words t).stderr = (run words' t).stderr) ∧
    ((run words t).ending = .returned 0 →
      ∃ source, t.readText o.input = .ok source ∧ (tokenize source).failure = none ∧
        Delivers t o.output (o.format.format.dump (keptTokens o.skip source)) (run words t) ∧
        (run words t).stderr = if o.debug then summary (keptTokens o.skip source) else "") ∧
    ∀ (source : String) (S T U : List TokenType), (∀ type, type ∈ U ↔ type ∈ S ∨ type ∈ T) →
      Thins T (keptTokens S source) (keptTokens U source) ∧
      ∀ type ∈ U, linesAbout type (summary (keptTokens U source)) = [] := by
  have hsame : o.input = o'.input := by
    rw [input_of_resolve hresolve, input_of_resolve hresolve', hinput]
  rw [run_of_resolve hparse hresolve, run_of_resolve hparse' hresolve']
  refine ⟨⟨fun h => ?_, fun h => ?_⟩, fun h => ?_, work_of_returned_zero, fun source S T U hunion => ⟨?_, ?_⟩⟩
  · rw [work_eq_of_returned_one hsame h, h]
  · rw [work_eq_of_returned_one hsame.symm h, h]
  · rw [work_eq_of_returned_one hsame h]
  · rw [keptTokens_of_union hunion]
    exact thins_filter T _
  · intro type htype
    exact linesAbout_summary_keptTokens htype source

/-- An error behind a comment is the same if comments are left out, in another format and with a count. -/
theorem run_skip_comment :
    let t := (FileTree.ofWorking ["site"]).addFile ["site", "a.scss"] (Text.Utf8.encode "/* c */ ?".toList)
    let words := ["a.scss"]
    let words' := ["a.scss", "--skip", "comment", "-f", "json", "--debug"]
    (run words t).ending = .returned 1 ∧ (run words' t).ending = .returned 1 ∧
    (run words t).stderr = (run words' t).stderr := by
  intro t words words'
  have hparse : parseArguments words = .ok (.work ⟨"a.scss", none, none, [], none, false⟩) := by
    decide +kernel
  have hparse' : parseArguments words' =
      .ok (.work ⟨"a.scss", none, some (.named .json), [some "comment"], none, true⟩) := by
    decide +kernel
  have hresolve : resolve t ⟨"a.scss", none, none, [], none, false⟩ =
      .ok ⟨Path.ofString "a.scss", none, .named .text, [], false⟩ := by
    decide +kernel
  have hresolve' : resolve t ⟨"a.scss", none, some (.named .json), [some "comment"], none, true⟩ =
      .ok ⟨Path.ofString "a.scss", none, .named .json, [.comment], true⟩ := by
    decide +kernel
  have hfails : (run words t).ending = .returned 1 := by decide +kernel
  obtain ⟨hcode, hstderr, -, -⟩ := run_skip hparse hparse' rfl hresolve hresolve'
  exact ⟨hfails, hcode.1 hfails, hstderr hfails⟩

end CommandLine

end Stylesheet
