import Stylesheet.Toml.Scalar

/-!
# Reading a TOML document

A document is a sequence of statements, each on a line of its own: a key with its value, the
header of a table, or the double header of a table in a list. A value may be a list or an
inline table and so hold further values, but not without limit; its reader ends because what is
left to read gets shorter with every value.
-/

namespace Stylesheet.Toml

/-! ### Comments and blanks -/

/-- The text after a comment, if one begins here. A comment ends before the line feed and holds
no control characters. -/
def skipComment (text : List Char) : Option (List Char) :=
  match text with
  | '#' :: rest =>
    if (rest.takeWhile (· != '\n')).any isControl then none
    else some (rest.dropWhile (· != '\n'))
  | _ => some text

theorem length_skipComment_le {text rest : List Char} (h : skipComment text = some rest) :
    rest.length ≤ text.length := by
  unfold skipComment at h
  split at h
  · next r =>
    split at h
    · cases h
    · cases h
      have := length_dropWhile_le (· != '\n') r
      simp only [List.length_cons]; omega
  · cases h; exact Nat.le_refl _

/-- The text after all blanks, line feeds and comments, where the flag says whether the text
begins within a comment. -/
def skipFillerFrom : Bool → List Char → Option (List Char)
  | _, [] => some []
  | true, c :: cs =>
    if c = '\n' then skipFillerFrom false cs
    else if isControl c then none
    else skipFillerFrom true cs
  | false, c :: cs =>
    if isGapOrFeed c then skipFillerFrom false cs
    else if c = '#' then skipFillerFrom true cs
    else some (c :: cs)

/-- The text after all blanks, line feeds and comments. -/
def skipFiller (text : List Char) : Option (List Char) := skipFillerFrom false text

theorem length_skipFillerFrom_le {inComment : Bool} {text rest : List Char}
    (h : skipFillerFrom inComment text = some rest) : rest.length ≤ text.length := by
  fun_induction skipFillerFrom inComment text with
  | case1 _ => cases h; exact Nat.le_refl _
  | case2 _ ih => exact Nat.le_succ_of_le (ih h)
  | case3 c cs _ _ => cases h
  | case4 c cs _ _ ih => exact Nat.le_succ_of_le (ih h)
  | case5 c cs _ ih => exact Nat.le_succ_of_le (ih h)
  | case6 _ _ ih => exact Nat.le_succ_of_le (ih h)
  | case7 c cs _ _ => cases h; exact Nat.le_refl _

theorem length_skipFiller_le {text rest : List Char} (h : skipFiller text = some rest) :
    rest.length ≤ text.length :=
  length_skipFillerFrom_le h

/-! ### Values that hold values -/

/-- The text behind an equals sign and the blanks after it. -/
def afterEquals? : List Char → Option (List Char)
  | '=' :: rest => some (skipGaps rest)
  | _ => none

theorem length_afterEquals?_lt {text rest : List Char} (h : afterEquals? text = some rest) :
    rest.length < text.length := by
  unfold afterEquals? at h
  split at h
  · next r => cases h; exact Nat.lt_succ_of_le (length_skipGaps_le r)
  · cases h

/-- How much room there is for lists and inline tables within each other. -/
def maxNesting : Nat := 986

/-- The room that a list takes. -/
def listRoom : Nat := 2

/-- The room that an inline table takes. -/
def tableRoom : Nat := 3

mutual

/-- Any value, within the given room. -/
def value (room : Nat) (text : List Char) : Except Failure (Parsed text Value) :=
  match text with
  | '[' :: rest =>
    if room < listRoom then .error .tooDeep
    else do
      let p ← items (room - listRoom) rest
      return p.extend .array (Nat.le_succ _)
  | '\x7b' :: rest =>
    if room < tableRoom then .error .tooDeep
    else do
      have h := length_skipGaps_le rest
      let p ← inlineTable (room - tableRoom) (skipGaps rest)
      return p.extend (fun entries => .table (entryValues entries)) (Nat.le_succ_of_le h)
  | c :: cs => scalar (c :: cs)
  | [] => .error .malformed
termination_by 3 * text.length

/-- The items of a list up to its closing bracket; a comma may stand after the last. -/
def items (room : Nat) (text : List Char) : Except Failure (Parsed text (List Value)) := do
  let ⟨start, hs⟩ ← orMalformed (skipFiller text).attach
  have h1 := length_skipFiller_le hs
  match h : start with
  | ']' :: after => return ⟨[], after, by rw [h, List.length_cons] at h1; omega⟩
  | _ =>
    let v ← value room start
    have h2 := v.shorter
    let ⟨next, hn⟩ ← orMalformed (skipFiller v.rest).attach
    have h3 := length_skipFiller_le hn
    match h : next with
    | ']' :: after => return ⟨[v.value], after, by rw [h, List.length_cons] at h3; omega⟩
    | ',' :: after =>
      have h4 : after.length < text.length := by rw [h, List.length_cons] at h3; omega
      let more ← items room after
      return more.extend (v.value :: ·) (Nat.le_of_lt h4)
    | _ => .error .malformed
termination_by 3 * text.length + 1

/-- The entries of an inline table behind its opening brace. -/
def inlineTable (room : Nat) (text : List Char) : Except Failure (Parsed text Entries) :=
  match text with
  | '\x7d' :: after => .ok ⟨[], after, Nat.lt_succ_self _⟩
  | c :: cs => pairs room (c :: cs) []
  | [] => .error .malformed
termination_by 3 * text.length + 2

/-- The entries of an inline table up to its closing brace, added to those before them; no comma
may stand after the last. -/
def pairs (room : Nat) (text : List Char) (entries : Entries) :
    Except Failure (Parsed text Entries) := do
  let k ← orMalformed (key? text)
  have h1 := k.shorter
  let ⟨start, h⟩ ← orMalformed (afterEquals? k.rest).attach
  have h2 := length_afterEquals?_lt h
  let v ← value room start
  have h3 := v.shorter
  let entries ← orMalformed (assign k.value v.value entries)
  have h4 := length_skipGaps_le v.rest
  match h : skipGaps v.rest with
  | '\x7d' :: after => return ⟨entries, after, by rw [h, List.length_cons] at h4; omega⟩
  | ',' :: after =>
    have h5 : after.length < text.length := by rw [h, List.length_cons] at h4; omega
    have h6 := length_skipGaps_le after
    let more ← pairs room (skipGaps after) entries
    return more.extend id (by omega)
  | _ => .error .malformed
termination_by 3 * text.length + 1

end

/-! ### Statements -/

/-- A statement of a document. -/
inductive Statement where
  /-- A key and its value. -/
  | pair (k : Key) (v : Value)
  /-- The header of a table. -/
  | header (k : Key)
  /-- The double header of a table in a list. -/
  | listHeader (k : Key)

/-- A header, behind its first bracket. -/
def header? (text : List Char) : Option (Parsed text Statement) :=
  match text with
  | '[' :: rest => do
    let k ← key? (skipGaps rest)
    have h1 := k.shorter
    have h2 := length_skipGaps_le rest
    match h : k.rest with
    | ']' :: ']' :: after =>
      return ⟨.listHeader k.value, after, by simp only [h, List.length_cons] at h1 ⊢; omega⟩
    | _ => none
  | c :: rest => do
    let k ← key? (skipGaps (c :: rest))
    have h1 := k.shorter
    have h2 := length_skipGaps_le (c :: rest)
    match h : k.rest with
    | ']' :: after =>
      return ⟨.header k.value, after, by simp only [h, List.length_cons] at h1 h2 ⊢; omega⟩
    | _ => none
  | [] => none

/-- A statement, from its first character on. -/
def statement (text : List Char) : Except Failure (Parsed text Statement) :=
  match text with
  | '[' :: rest => orMalformed ((header? rest).map fun p => p.extend id (Nat.le_succ _))
  | c :: cs => do
    let k ← orMalformed (key? (c :: cs))
    have h1 := k.shorter
    let ⟨start, h⟩ ← orMalformed (afterEquals? k.rest).attach
    have h2 := length_afterEquals?_lt h
    let v ← value maxNesting start
    return v.extend (.pair k.value) (by omega)
  | [] => .error .malformed

/-- A document as far as it has been read: its entries, and the path of the last header. -/
structure Progress where
  /-- All that was set. -/
  entries : Entries
  /-- Where the next keys belong. -/
  header : List String

/-- Takes in a statement. -/
def Progress.add (d : Progress) : Statement → Option Progress
  | .pair k v => (assignUnder d.header k v d.entries).map fun es => ⟨es, d.header⟩
  | .header k => (declare k d.entries).map fun es => ⟨es, k.path⟩
  | .listHeader k => (append k d.entries).map fun es => ⟨es, k.path⟩

/-- The text after the end of a statement's line: blanks, a comment and the line feed, unless the
document ends. -/
def lineEnd? (text : List Char) : Option (List Char) :=
  match skipComment (skipGaps text) with
  | some [] => some []
  | some ('\n' :: after) => some after
  | _ => none

theorem length_lineEnd?_le {text rest : List Char} (h : lineEnd? text = some rest) :
    rest.length ≤ text.length := by
  have h1 := length_skipGaps_le text
  unfold lineEnd? at h
  split at h
  · cases h; exact Nat.zero_le _
  · next after hc =>
    cases h
    have h2 := length_skipComment_le hc
    rw [List.length_cons] at h2
    omega
  · cases h

/-- Reads statements to the end of a document. -/
def statements (text : List Char) (d : Progress) : Except Failure Progress :=
  have h0 := length_skipGaps_le text
  match h : skipGaps text with
  | [] => .ok d
  | '\n' :: rest =>
    have : rest.length < text.length := by rw [h, List.length_cons] at h0; omega
    statements rest d
  | '#' :: rest =>
    match skipComment ('#' :: rest) with
    | none => .error .malformed
    | some _ =>
      have : (rest.dropWhile (· != '\n')).length < text.length := by
        have := length_dropWhile_le (· != '\n') rest
        rw [h, List.length_cons] at h0
        omega
      statements (rest.dropWhile (· != '\n')) d
  | c :: cs => do
    let s ← statement (c :: cs)
    have h1 := s.shorter
    let d ← orMalformed (d.add s.value)
    let ⟨after, ha⟩ ← orMalformed (lineEnd? s.rest).attach
    have h2 := length_lineEnd?_le ha
    have : after.length < text.length := by rw [h] at h0; omega
    statements after d
termination_by text.length

/-- A text in which a carriage return right before a line feed is left out. -/
def joinedFeeds : List Char → List Char
  | '\r' :: '\n' :: rest => '\n' :: joinedFeeds rest
  | c :: rest => c :: joinedFeeds rest
  | [] => []

/-- The entries of a document. -/
def parse (text : List Char) : Except Failure (List (String × Value)) := do
  let d ← statements (joinedFeeds text) ⟨[], []⟩
  return entryValues d.entries

end Stylesheet.Toml
