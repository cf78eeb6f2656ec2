import Stylesheet.CommandLine.Run
import Stylesheet.Proofs.Merging
import Mathlib.Data.List.Basic

/-!
# How a run ends

A run whose arguments are in order is to return a code, whatever it finds: 2 if there are no options or
the stylesheet cannot be read, else 1 if the stylesheet has an error, else 2 if the dump cannot be written,
and 0 otherwise (`promisedCode`). It does so unless it breaks off, and then it should have returned 2. When
it breaks off is told by `BreaksOff`: some failures of the configuration file have no answer, nor has a
null character in the name of the input, nor a dump that cannot be written. Main statement: `run_ending`.

A dump that is to be written to a directory breaks off already (`run_unwritable`).
-/

namespace Stylesheet.CommandLine

/-! ### The stages of a run -/

/-- The tokens of a source without those of the types to leave out. -/
def keptTokens (skip : List TokenType) (source : String) : List Token :=
  (tokenize source).tokens.filter fun token => token.type ∉ skip

section

variable {t : FileTree} {o : Options} {source : String}

/-- A stylesheet that cannot be read is reported. -/
theorem work_of_unreadable {fault : TextFault} (h : t.readText o.input = .error fault)
    (hnull : fault ≠ .file .nullInName) : (work t o).ending = .returned 2 := by
  have hsource : readSource t o.input = .error (.unreadable (fault.message o.input)) := by
    rw [readSource, h]
    split
    · next heq => cases heq
    · next heq => exact absurd (Except.error.inj heq) hnull
    · next heq => rw [Except.error.inj heq]
  rw [work, fileTokens, hsource]
  rfl

/-- No file can have a name with a null character, and no answer is ready for it. -/
theorem work_of_nullInName (h : t.readText o.input = .error (.file .nullInName)) :
    (work t o).ending = .broken (.file .nullInName o.input) := by
  have hsource : readSource t o.input = .error (.impossible .nullInName) := by
    rw [readSource, h]
  rw [work, fileTokens, hsource]
  rfl

/-- An error in the stylesheet is reported. -/
theorem work_of_failure (h : t.readText o.input = .ok source) {e : LexError}
    (hfailure : (tokenize source).failure = some e) :
    work t o = ⟨.returned 1, "", e.report o.input.text ++ "\n", t⟩ := by
  have hsource : readSource t o.input = .ok source := by
    rw [readSource, h]
  have htokens : tokens source = .error e := by
    rw [tokens, hfailure]
  rw [work, fileTokens, hsource]
  simp only [bind, Except.bind, htokens]
  rfl

/-- The tokens of a stylesheet without errors are delivered. -/
theorem work_of_clean (h : t.readText o.input = .ok source) (hfailure : (tokenize source).failure = none) :
    work t o = deliver t o (keptTokens o.skip source) := by
  have hsource : readSource t o.input = .ok source := by
    rw [readSource, h]
  have htokens : tokens source = .ok (tokenize source).tokens := by
    rw [tokens, hfailure]
  have hkept : keptTokens o.skip source =
      (tokenize source).tokens.filter fun token => !o.skip.contains token.type := by
    refine List.filter_congr fun token _ => ?_
    simp
  rw [work, fileTokens, hsource, hkept]
  simp only [bind, Except.bind, htokens]
  rfl

/-- **How far doing what options say comes**: to the name of the input, to its text, to an error in the text, or
to its tokens. -/
theorem work_stages (t : FileTree) (o : Options) :
    (t.readText o.input = .error (.file .nullInName) ∧ (work t o).ending = .broken (.file .nullInName o.input)) ∨
    (∃ fault, t.readText o.input = .error fault ∧ (work t o).ending = .returned 2) ∨
    (∃ source e, t.readText o.input = .ok source ∧ (tokenize source).failure = some e ∧
      work t o = ⟨.returned 1, "", e.report o.input.text ++ "\n", t⟩) ∨
    ∃ source, t.readText o.input = .ok source ∧ (tokenize source).failure = none ∧
      work t o = deliver t o (keptTokens o.skip source) := by
  cases htext : t.readText o.input with
  | error fault =>
    by_cases hnull : fault = .file .nullInName
    · rw [hnull] at htext ⊢
      exact .inl ⟨rfl, work_of_nullInName htext⟩
    · exact .inr (.inl ⟨fault, rfl, work_of_unreadable htext hnull⟩)
  | ok source =>
    cases hfailure : (tokenize source).failure with
    | some e => exact .inr (.inr (.inl ⟨source, e, rfl, hfailure, work_of_failure htext hfailure⟩))
    | none => exact .inr (.inr (.inr ⟨source, rfl, hfailure, work_of_clean htext hfailure⟩))

/-- Delivering a dump returns 0 if it is printed, or if it can be written. -/
theorem deliver_ending (t : FileTree) (o : Options) (kept : List Token) :
    (deliver t o kept).ending = match o.output with
      | none => .returned 0
      | some path =>
        match t.write path (Text.Utf8.encode (o.format.format.dump kept).toList) with
        | .ok _ => .returned 0
        | .error fault => .broken (.file fault path) := by
  unfold deliver
  cases o.output with
  | none => rfl
  | some path =>
    dsimp only
    cases t.write path (Text.Utf8.encode (o.format.format.dump kept).toList) <;> rfl

end

/-! ### When a run breaks off -/

/-- `ConfigBreaksOff t a b`: on the way from the arguments `a` to options, `b` breaks the run off. -/
inductive ConfigBreaksOff (t : FileTree) (a : Arguments) : Breakdown → Prop where
  /-- The name of the configuration file is too long. -/
  | nameTooLong : t.read (configPath a) = .error .nameTooLong → ConfigBreaksOff t a (.file .nameTooLong (configPath a))
  /-- The configuration file is not UTF-8. -/
  | encoding {octets : List UInt8} {fault : Text.Utf8.Fault} : t.read (configPath a) = .ok octets →
      Text.Utf8.decode octets = .error fault → ConfigBreaksOff t a (.encoding fault)
  /-- A whole number in it has too many digits. -/
  | longNumeral {octets : List UInt8} {text : List Char} {digits : Nat} : t.read (configPath a) = .ok octets →
      Text.Utf8.decode octets = .ok text → Toml.parse text = .error (.longInteger digits) →
      ConfigBreaksOff t a (.longNumeral digits)
  /-- Too many values stand within each other in it. -/
  | deepNesting {octets : List UInt8} {text : List Char} : t.read (configPath a) = .ok octets →
      Text.Utf8.decode octets = .ok text → Toml.parse text = .error .tooDeep → ConfigBreaksOff t a .deepNesting
  /-- The first objection to it is about a value that cannot be shown. -/
  | unshowable {c : Config} {x : Objection} {u : Toml.Unshowable} : loadConfig t a = .ok c → FirstObjection c a x →
      x.failure = .broken (.unshowable u) → ConfigBreaksOff t a (.unshowable u)

section

variable {t : FileTree} {a : Arguments} {b : Breakdown}

theorem loadConfig_of_read {octets : List UInt8} (h : t.read (configPath a) = .ok octets) :
    loadConfig t a = readConfig octets := by
  rw [loadConfig, h]

/-- The configuration file breaks a run off by its name, its octets, a numeral, or its nesting. -/
theorem configBreaksOff_of_loadConfig (h : loadConfig t a = .error (.broken b)) : ConfigBreaksOff t a b := by
  cases hread : t.read (configPath a) with
  | error fault =>
    rw [loadConfig, hread] at h
    cases fault with
    | nameTooLong =>
      cases h
      exact .nameTooLong hread
    | _ => cases h
  | ok octets =>
    rw [loadConfig_of_read hread] at h
    cases hdecode : Text.Utf8.decode octets with
    | error fault =>
      rw [readConfig, hdecode] at h
      cases h
      exact .encoding hread hdecode
    | ok text =>
      cases hparse : Toml.parse text with
      | ok c =>
        simp only [readConfig, hdecode, hparse] at h
        cases h
      | error failure =>
        simp only [readConfig, hdecode, hparse] at h
        cases failure with
        | malformed => cases h
        | longInteger digits =>
          cases h
          exact .longNumeral hread hdecode hparse
        | tooDeep =>
          cases h
          exact .deepNesting hread hdecode hparse

/-- An objection can break a run off only by a value that cannot be shown. -/
theorem Objection.eq_unshowable_of_failure {x : Objection} (h : x.failure = .broken b) : ∃ u, b = .unshowable u := by
  cases x with
  | format v =>
    rw [failure] at h
    cases hv : v.literal with
    | ok text =>
      rw [hv] at h
      cases h
    | error u =>
      rw [hv] at h
      cases h
      exact ⟨u, rfl⟩
  | item v =>
    rw [failure] at h
    cases hv : v.bare with
    | ok name =>
      rw [hv] at h
      cases h
    | error u =>
      rw [hv] at h
      cases h
      exact ⟨u, rfl⟩
  | word name => cases h

/-- **Options break a run off** in these cases and in no others. -/
theorem resolve_eq_broken_iff : resolve t a = .error (.broken b) ↔ ConfigBreaksOff t a b := by
  have hload : ∀ f, loadConfig t a = .error f → resolve t a = .error f := by
    intro f hf
    rw [resolve, hf]
    rfl
  have hmerge : ∀ c, loadConfig t a = .ok c → resolve t a = merge c a := by
    intro c hc
    rw [resolve, hc]
    rfl
  constructor
  · intro h
    cases hconfig : loadConfig t a with
    | error f =>
      obtain rfl : f = .broken b := Except.error.inj ((hload f hconfig).symm.trans h)
      exact configBreaksOff_of_loadConfig hconfig
    | ok c =>
      obtain ⟨x, hx, hfailure⟩ := merge_eq_error_iff.1 ((hmerge c hconfig).symm.trans h)
      obtain ⟨u, rfl⟩ := Objection.eq_unshowable_of_failure hfailure.symm
      exact .unshowable hconfig hx hfailure.symm
  · intro h
    cases h with
    | nameTooLong hread =>
      apply hload
      rw [loadConfig, hread]
    | encoding hread hdecode =>
      apply hload
      rw [loadConfig_of_read hread, readConfig, hdecode]
    | longNumeral hread hdecode hparse =>
      apply hload
      simp only [loadConfig_of_read hread, readConfig, hdecode, hparse]
    | deepNesting hread hdecode hparse =>
      apply hload
      simp only [loadConfig_of_read hread, readConfig, hdecode, hparse]
    | unshowable hconfig hx hfailure =>
      rw [hmerge _ hconfig, hx.merge_eq, hfailure]

end

/-- `BreaksOff t a b`: on the way from the arguments `a` to a code, `b` breaks the run off. -/
inductive BreaksOff (t : FileTree) (a : Arguments) : Breakdown → Prop where
  /-- There are no options. -/
  | config {b : Breakdown} : ConfigBreaksOff t a b → BreaksOff t a b
  /-- The name of the input has a null character. -/
  | nullInName {o : Options} : resolve t a = .ok o → t.readText o.input = .error (.file .nullInName) →
      BreaksOff t a (.file .nullInName o.input)
  /-- The stylesheet has no error, but its dump cannot be written. -/
  | unwritable {o : Options} {source : String} {path : Path} {fault : FileFault} : resolve t a = .ok o →
      t.readText o.input = .ok source → (tokenize source).failure = none → o.output = some path →
      t.write path (Text.Utf8.encode (o.format.format.dump (keptTokens o.skip source)).toList) = .error fault →
      BreaksOff t a (.file fault path)

/-! ### Codes -/

/-- The code that a run is to return: 2 without options or without a text, else 1 for an error in the text,
else 2 if the dump is to be written and cannot be, else 0. -/
def promisedCode (t : FileTree) (a : Arguments) : Nat :=
  match resolve t a with
  | .error _ => 2
  | .ok o =>
    match t.readText o.input with
    | .error _ => 2
    | .ok source =>
      match (tokenize source).failure, o.output with
      | some _, _ => 1
      | none, none => 0
      | none, some path =>
        match t.write path (Text.Utf8.encode (o.format.format.dump (keptTokens o.skip source)).toList) with
        | .ok _ => 0
        | .error _ => 2

section

variable {words : List String} {t : FileTree} {a : Arguments} {o : Options} {b : Breakdown}

theorem run_of_resolve (hparse : parseArguments words = .ok (.work a)) (h : resolve t a = .ok o) :
    run words t = work t o := by
  simp only [run, hparse, h]

/-- A breakdown is how the run ends, where it was to return 2. -/
theorem BreaksOff.ending (h : BreaksOff t a b) (hparse : parseArguments words = .ok (.work a)) :
    (run words t).ending = .broken b ∧ promisedCode t a = 2 := by
  cases h with
  | config hconfig =>
    have hresolve := resolve_eq_broken_iff.2 hconfig
    simp only [run, hparse, hresolve, promisedCode, and_self]
  | nullInName hresolve htext =>
    rw [run_of_resolve hparse hresolve, work_of_nullInName htext]
    simp only [promisedCode, hresolve, htext, and_self]
  | unwritable hresolve htext hfailure houtput hwrite =>
    rw [run_of_resolve hparse hresolve, work_of_clean htext hfailure, deliver_ending]
    simp only [promisedCode, hresolve, htext, hfailure, houtput, hwrite, and_self]

/-- A run returns the code that it is to return, or it breaks off. -/
theorem ending_cases (t : FileTree) (hparse : parseArguments words = .ok (.work a)) :
    (run words t).ending = .returned (promisedCode t a) ∨ ∃ b, BreaksOff t a b := by
  cases hresolve : resolve t a with
  | error f =>
    cases f with
    | rejected e =>
      left
      simp only [run, hparse, hresolve, promisedCode]
    | broken b => exact .inr ⟨b, .config (resolve_eq_broken_iff.1 hresolve)⟩
  | ok o =>
    rw [run_of_resolve hparse hresolve]
    obtain ⟨htext, -⟩ | ⟨fault, htext, hwork⟩ | ⟨source, e, htext, hfailure, hwork⟩ | ⟨source, htext, hfailure, hwork⟩ :=
      work_stages t o
    · exact .inr ⟨_, .nullInName hresolve htext⟩
    · left
      rw [hwork]
      simp only [promisedCode, hresolve, htext]
    · left
      rw [hwork]
      simp only [promisedCode, hresolve, htext, hfailure]
    · rw [hwork, deliver_ending]
      cases houtput : o.output with
      | none =>
        left
        simp only [promisedCode, hresolve, htext, hfailure, houtput]
      | some path =>
        cases hwrite : t.write path (Text.Utf8.encode (o.format.format.dump (keptTokens o.skip source)).toList) with
        | error fault => exact .inr ⟨_, .unwritable hresolve htext hfailure houtput hwrite⟩
        | ok files =>
          left
          simp only [promisedCode, hresolve, htext, hfailure, houtput, hwrite]

/-- **How a run ends** whose arguments are in order. It returns the code that it is to return, or it breaks
off. Where it breaks off, and only there, one of the listed things has happened, and it was to return 2. -/
theorem run_ending (hparse : parseArguments words = .ok (.work a)) (t : FileTree) :
    ((run words t).ending = .returned (promisedCode t a) ↔ ∀ b, ¬ BreaksOff t a b) ∧
    (∀ b, (run words t).ending = .broken b ↔ BreaksOff t a b) ∧
    ((∃ b, BreaksOff t a b) → promisedCode t a = 2) ∧
    ((run words t).ending = .returned (promisedCode t a) ∨ ∃ b, (run words t).ending = .broken b) := by
  have hbroken : ∀ b, (run words t).ending = .broken b ↔ BreaksOff t a b := by
    intro b
    refine ⟨fun h => ?_, fun h => (h.ending hparse).1⟩
    obtain hreturns | ⟨b', hb'⟩ := ending_cases t hparse
    · rw [hreturns] at h
      cases h
    · obtain rfl : b' = b := Ending.broken.inj ((hb'.ending hparse).1.symm.trans h)
      exact hb'
  refine ⟨⟨?_, ?_⟩, hbroken, fun ⟨b, hb⟩ => (hb.ending hparse).2, ?_⟩
  · intro hreturns b hb
    rw [(hb.ending hparse).1] at hreturns
    cases hreturns
  · intro hnone
    obtain hreturns | ⟨b, hb⟩ := ending_cases t hparse
    · exact hreturns
    · exact absurd hb (hnone b)
  · obtain hreturns | ⟨b, hb⟩ := ending_cases t hparse
    · exact .inl hreturns
    · exact .inr ⟨b, (hb.ending hparse).1⟩

end

/-- A working directory with a stylesheet, and a directory beside it. -/
def sheetAndDirectory (text : String) : FileTree :=
  ((FileTree.ofWorking ["site"]).addFile ["site", "a.scss"] (Text.Utf8.encode text.toList)).addDirectories ["site", "d"]

/-- An error in the stylesheet comes before the output, which could not be written. -/
theorem run_ending_error_first :
    parseArguments ["a.scss", "-o", "d"] = .ok (.work ⟨"a.scss", some "d", none, [], none, false⟩) ∧
    (run ["a.scss", "-o", "d"] (sheetAndDirectory "a ?")).ending = .returned 1 := by
  have hparse : parseArguments ["a.scss", "-o", "d"] = .ok (.work ⟨"a.scss", some "d", none, [], none, false⟩) := by
    decide +kernel
  have hcode : promisedCode (sheetAndDirectory "a ?") ⟨"a.scss", some "d", none, [], none, false⟩ = 1 := by
    decide +kernel
  obtain ⟨hreturns, -, hbreaks, -⟩ := run_ending hparse (sheetAndDirectory "a ?")
  refine ⟨hparse, ?_⟩
  rw [← hcode, hreturns]
  intro b hb
  have htwo := hbreaks ⟨b, hb⟩
  rw [hcode] at htwo
  cases htwo

/-- A dump that is to be written to a directory breaks the run off, and so does a configuration file that is
not UTF-8. Both runs were to return 2. -/
theorem run_unwritable :
    (parseArguments ["a.scss", "-o", "d"] = .ok (.work ⟨"a.scss", some "d", none, [], none, false⟩) ∧
      promisedCode (sheetAndDirectory "a") ⟨"a.scss", some "d", none, [], none, false⟩ = 2 ∧
      (run ["a.scss", "-o", "d"] (sheetAndDirectory "a")).ending = .broken (.file .isDirectory (Path.ofString "d"))) ∧
    parseArguments ["a.scss"] = .ok (.work ⟨"a.scss", none, none, [], none, false⟩) ∧
      promisedCode ((sheetAndDirectory "a").addFile ["site", "scsslex.toml"] [0xff])
        ⟨"a.scss", none, none, [], none, false⟩ = 2 ∧
      (run ["a.scss"] ((sheetAndDirectory "a").addFile ["site", "scsslex.toml"] [0xff])).ending =
        .broken (.encoding ⟨0, 0xff, 1, .invalidStart⟩) := by
  refine ⟨⟨?_, ?_, ?_⟩, ?_, ?_, ?_⟩
  all_goals decide +kernel

end Stylesheet.CommandLine
