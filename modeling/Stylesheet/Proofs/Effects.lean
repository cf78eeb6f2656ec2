import Stylesheet.CommandLine.Run
import Mathlib.Data.List.Basic

/-!
# What a run changes

A run has two places where a dump can go: the output file, if one is named, and the printed result.
A run that returns 0 has put the dump of the stylesheet into exactly one of them (`Delivers`), and
nothing else has changed. Any other run, whether it is refused, rejected, fails to read or to write
or breaks off, leaves every file as it was and prints nothing but the description it was asked for
(`Idle`).

Writing is looked at first: a successful write changes the one place that its path leads to, and the
path still leads there afterwards (`writes_of_write`). Then every stage of a run either is idle or
goes on to the next (`deliver_cases`, `work_cases`, `run_cases`). Main statement: `run_effects`.
-/

namespace Stylesheet

namespace FileTree

/-! ### Writing a file -/

/-- `Writes t path content u`: the tree `u` differs from `t` in the file at `path` alone, which holds
`content`. -/
structure Writes (t : FileTree) (path : Path) (content : List UInt8) (u : FileTree) : Prop where
  /-- The path leads to a place that holds the content, and every other place holds what it held. -/
  changed : ∃ place, t.locate path = .ok place ∧
    ∀ other, u.entryAt other = if other = place then some (.file content) else t.entryAt other
  /-- Reading the path gives the content. -/
  read : u.read path = .ok content
  /-- The working directory is the same. -/
  working : u.working = t.working

/-- What a path leads to is not on its way, so putting a file there does not change where it leads. -/
theorem follow_put {t : FileTree} {start place : Location} {names : List String}
    (h : t.follow start names = .ok place) (hplace : t.entryAt place ≠ some .directory) (e : Entry) :
    (t.put place e).follow start names = .ok place := by
  have hne : place ≠ [] := by
    rintro rfl
    exact hplace rfl
  induction names generalizing start with
  | nil => exact h
  | cons name names ih =>
    rw [follow] at h ⊢
    -- a name is looked up in a directory, which the place is not
    have hpassed : t.entryAt start = some .directory → (t.put place e).entryAt start = some .directory := by
      intro hstart
      rw [entryAt_put t e start hne, if_neg, hstart]
      rintro rfl
      exact hplace hstart
    split at h
    · cases h
    · cases h
    · next hstart =>
      simp only [hpassed hstart]
      by_cases hup : name = ".."
      · rw [if_pos hup] at h ⊢
        exact ih h
      · rw [if_neg hup] at h ⊢
        by_cases hlong : maxName < name.utf8ByteSize
        · rw [if_pos hlong] at h
          cases h
        · rw [if_neg hlong] at h ⊢
          exact ih h

theorem locate_put {t : FileTree} {p : Path} {place : Location} (h : t.locate p = .ok place)
    (hplace : t.entryAt place ≠ some .directory) (e : Entry) : (t.put place e).locate p = .ok place := by
  unfold locate at h ⊢
  split at h
  · cases h
  · next hnull =>
    rw [if_neg hnull]
    split at h
    · cases h
    · next hlong =>
      rw [if_neg hlong]
      exact follow_put h hplace e

/-- A write that succeeds puts a file where the path leads, which is no directory. -/
theorem write_eq_ok {t u : FileTree} {p : Path} {content : List UInt8} (h : t.write p content = .ok u) :
    ∃ place, t.locate p = .ok place ∧ t.entryAt place ≠ some .directory ∧ u = t.put place (.file content) := by
  unfold write at h
  cases hplace : t.locate p with
  | error fault =>
    rw [hplace] at h
    cases h
  | ok place =>
    rw [hplace] at h
    simp only [bind, Except.bind] at h
    split at h
    · cases h
    · next hentry =>
      cases h
      exact ⟨place, rfl, hentry, rfl⟩

/-- **A successful write changes one file.** -/
theorem writes_of_write {t u : FileTree} {p : Path} {content : List UInt8} (h : t.write p content = .ok u) :
    t.Writes p content u := by
  obtain ⟨place, hlocate, hentry, rfl⟩ := write_eq_ok h
  have hne : place ≠ [] := by
    rintro rfl
    exact hentry rfl
  have hput := fun other => t.entryAt_put (.file content) other hne
  refine ⟨⟨place, hlocate, hput⟩, ?_, rfl⟩
  have hthere : (t.put place (.file content)).entryAt place = some (.file content) := by
    rw [hput, if_pos rfl]
  simp only [read, locate_put hlocate hentry, bind, Except.bind, hthere]
  rfl

end FileTree

namespace CommandLine

/-! ### Two kinds of outcome -/

/-- `Idle t r`: the outcome `r` is no success, and it leaves nothing behind in the tree `t` and in the
printed result. -/
structure Idle (t : FileTree) (r : Outcome) : Prop where
  /-- The run does not return 0. -/
  ending : r.ending ≠ .returned 0
  /-- The files are those from before. -/
  files : r.files = t
  /-- Nothing is printed as the result. -/
  stdout : r.stdout = ""

/-- `Delivers t output dump r`: the outcome `r` has put a dump into the output file, or into the printed
result if there is none, and it has changed nothing else in the tree `t`. -/
def Delivers (t : FileTree) (output : Option Path) (dump : String) (r : Outcome) : Prop :=
  match output with
  | none => r.stdout = dump ∧ r.files = t
  | some path => r.stdout = "" ∧ t.Writes path (Text.Utf8.encode dump.toList) r.files

/-- `Dumps t o r`: the outcome `r` returns 0 and delivers the dump that the options `o` ask for. It is
the dump of the stylesheet's tokens without the types to leave out, where the stylesheet is the decoded
input file of the tree `t` with unified line ends. -/
structure Dumps (t : FileTree) (o : Options) (r : Outcome) : Prop where
  /-- The run returns 0. -/
  ending : r.ending = .returned 0
  /-- The input can be read, its text lexes, and the dump of its tokens is delivered. -/
  dump : ∃ octets text, t.read o.input = .ok octets ∧ Text.Utf8.decode octets = .ok text ∧
    (tokenize (String.ofList (Text.unified text))).failure = none ∧
    Delivers t o.output (o.format.format.dump
      ((tokenize (String.ofList (Text.unified text))).tokens.filter fun token => token.type ∉ o.skip)) r

/-! ### The stages of a run -/

/-- Delivering a dump succeeds, or it is idle: the output file cannot be written then. -/
theorem deliver_cases (t : FileTree) (o : Options) (kept : List Token) :
    Idle t (deliver t o kept) ∨ (deliver t o kept).ending = .returned 0 ∧
      Delivers t o.output (o.format.format.dump kept) (deliver t o kept) := by
  unfold deliver Delivers
  cases o.output with
  | none => exact .inr ⟨rfl, rfl, rfl⟩
  | some path =>
    dsimp only
    cases hwrite : t.write path (Text.Utf8.encode (o.format.format.dump kept).toList) with
    | ok files => exact .inr ⟨rfl, rfl, FileTree.writes_of_write hwrite⟩
    | error fault => exact .inl ⟨by simp, rfl, rfl⟩

/-- The text of a stylesheet file is its decoded content with unified line ends. -/
theorem readSource_eq_ok {t : FileTree} {p : Path} {source : String} (h : readSource t p = .ok source) :
    ∃ octets text, t.read p = .ok octets ∧ Text.Utf8.decode octets = .ok text ∧
      source = String.ofList (Text.unified text) := by
  unfold readSource at h
  split at h
  · next text htext =>
    cases h
    unfold FileTree.readText at htext
    split at htext
    · cases htext
    · next octets hread =>
      split at htext
      · cases htext
      · next text hdecode =>
        cases htext
        exact ⟨octets, text, hread, hdecode, rfl⟩
  · cases h
  · cases h

/-- The tokens to dump are those of the stylesheet whose types are not to be left out. -/
theorem fileTokens_eq_ok {t : FileTree} {o : Options} {kept : List Token} (h : fileTokens t o = .ok kept) :
    ∃ source, readSource t o.input = .ok source ∧ (tokenize source).failure = none ∧
      kept = (tokenize source).tokens.filter fun token => token.type ∉ o.skip := by
  unfold fileTokens at h
  cases hsource : readSource t o.input with
  | error failure =>
    rw [hsource] at h
    cases h
  | ok source =>
    rw [hsource] at h
    simp only [bind, Except.bind, tokens] at h
    cases hfailure : (tokenize source).failure with
    | some e =>
      rw [hfailure] at h
      cases h
    | none =>
      rw [hfailure] at h
      cases h
      refine ⟨source, rfl, hfailure, List.filter_congr fun token _ => ?_⟩
      simp

/-- Doing what options say dumps the stylesheet, or it is idle. -/
theorem work_cases (t : FileTree) (o : Options) : Idle t (work t o) ∨ Dumps t o (work t o) := by
  unfold work
  split
  · next kept hkept =>
    obtain ⟨source, hsource, hfailure, rfl⟩ := fileTokens_eq_ok hkept
    obtain ⟨octets, text, hread, hdecode, rfl⟩ := readSource_eq_ok hsource
    rcases deliver_cases t o _ with hidle | ⟨hending, hdelivers⟩
    · exact .inl hidle
    · exact .inr ⟨hending, octets, text, hread, hdecode, hfailure, hdelivers⟩
  · exact .inl ⟨by simp, rfl, rfl⟩
  · exact .inl ⟨by simp, rfl, rfl⟩
  · exact .inl ⟨by simp, rfl, rfl⟩

/-- **What can come of a run**: nothing, the description, or a dump. -/
theorem run_cases (words : List String) (t : FileTree) :
    Idle t (run words t) ∨
    parseArguments words = .ok .help ∧ run words t = ⟨.stopped 0, helpText, "", t⟩ ∨
    ∃ a o, parseArguments words = .ok (.work a) ∧ resolve t a = .ok o ∧ Dumps t o (run words t) := by
  unfold run
  cases hparse : parseArguments words with
  | error e => exact .inl ⟨by simp [stop], rfl, rfl⟩
  | ok request =>
    cases request with
    | help => exact .inr (.inl ⟨rfl, rfl⟩)
    | work a =>
      dsimp only
      cases hresolve : resolve t a with
      | ok o =>
        rcases work_cases t o with hidle | hdumps
        · exact .inl hidle
        · exact .inr (.inr ⟨a, o, rfl, hresolve, hdumps⟩)
      | error failure =>
        cases failure with
        | rejected e => exact .inl ⟨by simp, rfl, rfl⟩
        | broken b => exact .inl ⟨by simp, rfl, rfl⟩

/-- **A run that does not return 0 changes nothing.** It leaves the files as they were and prints no
result, unless it prints the description it was asked for. A run that returns 0 has read the stylesheet
that its options name, and the dump is all that it has printed or written. -/
theorem run_effects (words : List String) (t : FileTree) :
    ((run words t).ending ≠ .returned 0 →
      (run words t).files = t ∧
      ((run words t).stdout = "" ∨
        parseArguments words = .ok .help ∧ (run words t).ending = .stopped 0 ∧ (run words t).stdout = helpText)) ∧
    ((run words t).ending = .returned 0 →
      ∃ a o, parseArguments words = .ok (.work a) ∧ resolve t a = .ok o ∧ Dumps t o (run words t)) := by
  rcases run_cases words t with hidle | ⟨hhelp, hrun⟩ | ⟨a, o, hparse, hresolve, hdumps⟩
  · refine ⟨?_, fun h => absurd h hidle.ending⟩
    intro _
    exact ⟨hidle.files, .inl hidle.stdout⟩
  · rw [hrun]
    refine ⟨?_, fun h => absurd h (by simp)⟩
    intro _
    exact ⟨rfl, .inr ⟨hhelp, rfl, rfl⟩⟩
  · refine ⟨fun h => absurd hdumps.ending h, ?_⟩
    intro _
    exact ⟨a, o, hparse, hresolve, hdumps⟩

/-- The output may be the input itself, which the dump then replaces. -/
example :
    let t := (FileTree.ofWorking ["site"]).addFile ["site", "a.scss"] (Text.Utf8.encode "a".toList)
    let r := run ["a.scss", "-o", "a.scss"] t
    r.ending = .returned 0 ∧ r.stdout = "" ∧
      r.files.read (Path.ofString "a.scss") =
        .ok (Text.Utf8.encode "1:0-1:1         identifier    'a'\n".toList) := by
  decide +kernel

end CommandLine

end Stylesheet
