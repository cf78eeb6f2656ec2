import Stylesheet.Workspace
import Stylesheet.Proofs.Agreement
import Stylesheet.Proofs.Report

/-!
# Ranges in code units

Editors count along a line in code units of UTF-16. A character above U+FFFF has two of them, and any other
character has one (`Text.unitsOf`). The range of a diagnostic is to be the character of the error in code units
(`InUnits`). It is on the right line always, but it counts characters instead, and takes the character of the
error for one unit. So it is the right one exactly if neither that character nor one before it on its line is
above U+FFFF. Main statement: `published_inUnits_iff`. One such character, before the error or as the error
itself, is enough to go wrong (`not_inUnits_supplementary`).
-/

namespace Stylesheet

/-! ### Code units -/

namespace Text

/-- The number of code units of a character in UTF-16. -/
def unitsOf (c : Char) : Nat := if 0xffff < c.toNat then 2 else 1

/-- The number of code units of a text. -/
def unitLength : List Char → Nat
  | [] => 0
  | c :: text => unitsOf c + unitLength text

theorem unitsOf_eq_one_iff {c : Char} : unitsOf c = 1 ↔ c.toNat ≤ 0xffff := by
  rw [unitsOf]
  split <;> omega

/-- A text has a unit for each character, and one more for each that is above U+FFFF. -/
theorem unitLength_eq (text : List Char) : unitLength text = text.length + text.countP (0xffff < ·.toNat) := by
  induction text with
  | nil => rfl
  | cons c text ih =>
    rw [unitLength, ih, List.countP_cons, List.length_cons, unitsOf]
    by_cases hc : 0xffff < c.toNat
    · simp only [hc, if_true, decide_true]
      omega
    · simp only [hc, if_false, decide_false, Bool.false_eq_true]
      omega

/-- Units and characters are equally many exactly if no character is above U+FFFF. -/
theorem unitLength_eq_length_iff {text : List Char} : unitLength text = text.length ↔ ∀ c ∈ text, c.toNat ≤ 0xffff := by
  rw [unitLength_eq, Nat.add_eq_left, List.countP_eq_zero]
  simp

end Text

/-! ### Columns -/

/-- The part of a text behind its last line feed. -/
def lastLine (text : List Char) : List Char := (text.reverse.takeWhile (· != '\n')).reverse

/-- A column counts the characters before it on its line. -/
theorem column_placeAt {text : List Char} {k : Nat} (hk : k ≤ text.length) :
    (placeAt text k).column = (lastLine (text.take k)).length := by
  have hle := (List.takeWhile_prefix (l := (text.take k).reverse) (· != '\n')).length_le
  have hlength : (text.take k).length = k := List.length_take_of_le hk
  rw [List.length_reverse, hlength] at hle
  rw [placeAt, lineStart, lastLine, List.length_reverse, hlength]
  dsimp only
  omega

/-! ### Ranges -/

/-- `InUnits text k d`: the range of the diagnostic `d` is the character at the index `k` of the text, in code
units. -/
structure InUnits (text : List Char) (k : Nat) (d : Diagnostic) : Prop where
  /-- It starts on the line that the index is on, counted from 0. -/
  line : d.start.line = (text.take k).count '\n'
  /-- It ends on the same line. -/
  finishLine : d.finish.line = d.start.line
  /-- It starts behind the units before the index on this line. -/
  start : d.start.character = Text.unitLength (lastLine (text.take k))
  /-- It is as long as the character. -/
  finish : ∃ c, text[k]? = some c ∧ d.finish.character = d.start.character + Text.unitsOf c

/-- The places of a diagnostic: it counts characters, and takes the character of the error for one. -/
theorem places_ofError {e : LexError} {text : List Char} {k : Nat} (hk : k ≤ text.length)
    (hposition : e.position = some (placeAt text k)) :
    (Diagnostic.ofError e).start = ⟨(text.take k).count '\n', (lastLine (text.take k)).length⟩ ∧
    (Diagnostic.ofError e).finish = ⟨(text.take k).count '\n', (lastLine (text.take k)).length + 1⟩ := by
  have hline : (placeAt text k).line - 1 = (text.take k).count '\n' := by
    rw [placeAt]
    dsimp only
    omega
  rw [Diagnostic.ofError, hposition]
  simp only [Option.elim_some, hline, column_placeAt hk, and_self]

/-- **A range is right in code units** exactly where units and characters are the same. -/
theorem inUnits_ofError_iff {e : LexError} {text : List Char} {k : Nat} {c : Char}
    (hposition : e.position = some (placeAt text k)) (hc : text[k]? = some c) :
    InUnits text k (Diagnostic.ofError e) ↔ (∀ b ∈ lastLine (text.take k), b.toNat ≤ 0xffff) ∧ c.toNat ≤ 0xffff := by
  obtain ⟨hk, -⟩ := List.getElem?_eq_some_iff.1 hc
  obtain ⟨hstart, hfinish⟩ := places_ofError (Nat.le_of_lt hk) hposition
  constructor
  · intro h
    have hcharacters := h.start
    obtain ⟨c', hc', hunits⟩ := h.finish
    obtain rfl : c = c' := Option.some.inj (hc.symm.trans hc')
    rw [hstart] at hcharacters
    rw [hstart, hfinish] at hunits
    constructor
    · rw [← Text.unitLength_eq_length_iff]
      exact (Int.ofNat.inj hcharacters).symm
    · rw [← Text.unitsOf_eq_one_iff]
      dsimp only at hunits
      omega
  · rintro ⟨hbefore, hsingle⟩
    have hunits := Text.unitsOf_eq_one_iff.2 hsingle
    have hlength := Text.unitLength_eq_length_iff.2 hbefore
    refine ⟨?_, ?_, ?_, c, hc, ?_⟩
    · rw [hstart]
    · rw [hstart, hfinish]
    · rw [hstart, hlength]
    · rw [hstart, hfinish, hunits]
      rfl

/-! ### What is published -/

/-- What is published after an event are the diagnostics of the text that the document has then. -/
theorem Workspace.handle_eq_ok {t : FileTree} {w w' : Workspace} {e : DocumentEvent} {n : Notification}
    (h : w.handle t e = .ok (n, w')) : ∃ text, w'.text t e.uri = .ok text ∧ n = ⟨e.uri, Diagnostic.ofText text⟩ := by
  unfold handle at h
  cases hupdate : w.update e with
  | error failure =>
    rw [hupdate] at h
    cases h
  | ok v =>
    rw [hupdate] at h
    simp only [bind, Except.bind] at h
    cases htext : v.text t e.uri with
    | error failure =>
      rw [htext] at h
      cases h
    | ok text =>
      rw [htext] at h
      cases h
      exact ⟨text, htext, rfl⟩

/-- `Published x ds`: the diagnostics `ds` are what is published about a document with the text `x`. -/
structure Published (x : String) (ds : List Diagnostic) : Prop where
  /-- They are published when a document is opened with this text. -/
  opened : ∀ (t : FileTree) (w : Workspace) (uri : String) (u : Uri), Uri.parse uri = .ok u →
    ∃ w', w.handle t (.opened uri x) = .ok (⟨uri, ds⟩, w')
  /-- After any event that leaves a document with this text, nothing else is published. -/
  only : ∀ (t : FileTree) (w w' : Workspace) (event : DocumentEvent) (n : Notification),
    w.handle t event = .ok (n, w') → w'.text t event.uri = .ok x → n = ⟨event.uri, ds⟩

theorem published_of_eq {x : String} {ds : List Diagnostic} (h : Diagnostic.ofText x = ds) : Published x ds where
  opened t w _ _ huri := ⟨_, h ▸ Workspace.handle_opened huri t w x⟩
  only t w w' event n hhandle hx := by
    obtain ⟨text, htext, rfl⟩ := Workspace.handle_eq_ok hhandle
    obtain rfl : text = x := Except.ok.inj (htext.symm.trans hx)
    rw [h]

/-- **The range of a diagnostic.** The error of a text is published as one diagnostic. It is on the line of the
error. It starts behind as many units as there are characters before the error on its line, and is one unit
long. That is the character of the error in code units exactly if neither this character nor one before it on
its line is above U+FFFF. -/
theorem published_inUnits_iff {x : String} {e : LexError} (hfailure : (tokenize x).failure = some e) :
    ∃ (k : Nat) (c : Char) (d : Diagnostic),
      e.position = some (placeAt x.toList k) ∧ x.toList[k]? = some c ∧ Published x [d] ∧
      d.start = ⟨(x.toList.take k).count '\n', (lastLine (x.toList.take k)).length⟩ ∧
      d.finish = ⟨(x.toList.take k).count '\n', (lastLine (x.toList.take k)).length + 1⟩ ∧
      (InUnits x.toList k d ↔ (∀ b ∈ lastLine (x.toList.take k), b.toNat ≤ 0xffff) ∧ c.toNat ≤ 0xffff) := by
  obtain ⟨a, c, b, htext, -, -, hposition, -⟩ := exists_of_failure hfailure
  have hc : x.toList[a.length]? = some c := by
    rw [htext, List.getElem?_append_right (Nat.le_refl _), Nat.sub_self]
    rfl
  have hk : a.length ≤ x.toList.length := by
    rw [htext, List.length_append]
    omega
  have hdiagnostics : Diagnostic.ofText x = [Diagnostic.ofError e] := by
    rw [Diagnostic.ofText, hfailure]
    rfl
  obtain ⟨hstart, hfinish⟩ := places_ofError hk hposition
  exact ⟨a.length, c, Diagnostic.ofError e, hposition, hc, published_of_eq hdiagnostics, hstart, hfinish,
    inUnits_ofError_iff hposition hc⟩

/-- A character above U+FFFF does no harm on an earlier line, nor does any other character on the same line. -/
theorem published_inUnits_earlier_line :
    ∃ d, (tokenize "/*😀\n→*/ ?").failure = some ⟨.unhandled '?', some ⟨8, 2, 4⟩, some "/*😀\n→*/ ?"⟩ ∧
      Published "/*😀\n→*/ ?" [d] ∧ InUnits "/*😀\n→*/ ?".toList 8 d := by
  have hfailure : (tokenize "/*😀\n→*/ ?").failure = some ⟨.unhandled '?', some ⟨8, 2, 4⟩, some "/*😀\n→*/ ?"⟩ := by
    decide +kernel
  obtain ⟨k, c, d, hposition, hc, hpublished, -, -, hunits⟩ := published_inUnits_iff hfailure
  have hk : (8 : Int) = k := congrArg Position.cursor (Option.some.inj hposition)
  obtain rfl : k = 8 := by omega
  obtain rfl : '?' = c := Option.some.inj hc
  exact ⟨d, hfailure, hpublished, hunits.2 ⟨Text.unitLength_eq_length_iff.1 (by decide), by decide⟩⟩

/-- Behind a character above U+FFFF the range starts one unit too early, and on such a character it is one unit
too short. -/
theorem not_inUnits_supplementary :
    (∃ d, Published "/*😀*/?" [d] ∧ d.start = ⟨0, 5⟩ ∧ d.finish = ⟨0, 6⟩ ∧
      Text.unitLength "/*😀*/".toList = 6 ∧ ¬ InUnits "/*😀*/?".toList 5 d) ∧
    ∃ d, Published "😀" [d] ∧ d.start = ⟨0, 0⟩ ∧ d.finish = ⟨0, 1⟩ ∧
      Text.unitsOf '😀' = 2 ∧ ¬ InUnits "😀".toList 0 d := by
  constructor
  · refine ⟨⟨⟨0, 5⟩, ⟨0, 6⟩, "Can't handle character: \"?\"", 1, "scsslex"⟩, ?_, rfl, rfl, by decide, ?_⟩
    · exact published_of_eq (by decide +kernel)
    · intro h
      exact absurd h.start (by decide)
  · refine ⟨⟨⟨0, 0⟩, ⟨0, 1⟩, "Can't handle character: \"😀\"", 1, "scsslex"⟩, ?_, rfl, rfl, by decide, ?_⟩
    · exact published_of_eq (by decide +kernel)
    · intro h
      obtain ⟨c, hc, hfinish⟩ := h.finish
      obtain rfl : '😀' = c := Option.some.inj hc
      exact absurd hfinish (by decide)

end Stylesheet
