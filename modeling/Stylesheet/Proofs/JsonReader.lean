import Stylesheet.Text.Parts
import Stylesheet.Proofs.ReadBack

/-!
# A reader of JSON

Dumps are to be read by others, so this module says what a JSON text stands for, in full and without
regard to how dumps are written: null, truth values, decimal numbers, strings with all their escapes,
lists and objects, with blanks between any two pieces.

A text is first cut into pieces (`pieces`): brackets, braces, commas and colons, and the values that
hold no others. Then the pieces are taken in from left to right (`value`, `after`), with the lists and
objects that are still open on a stack. A text that breaks off, has pieces in another order or goes on
behind its value stands for nothing. The equations below, one for each kind of piece, are what proofs
about a text use.
-/

namespace Stylesheet.JsonText

/-- What a JSON text stands for. -/
inductive Value where
  /-- The null value. -/
  | null
  /-- A truth value. -/
  | truth (b : Bool)
  /-- The number that is `mantissa` times ten to the power of `exponent`. -/
  | number (mantissa exponent : Int)
  /-- A string. -/
  | string (text : String)
  /-- A list. -/
  | array (items : List Value)
  /-- An object: its members in the order of the text. -/
  | object (members : List (String × Value))

/-! ### Strings -/

/-- The character that a letter or sign behind a backslash stands for. -/
def escaped? : Char → Option Char
  | '"' => some '"'
  | '\\' => some '\\'
  | '/' => some '/'
  | 'b' => some '\x08'
  | 'f' => some '\x0c'
  | 'n' => some '\n'
  | 'r' => some '\r'
  | 't' => some '\t'
  | _ => none

/-- Whether a unit is the first of a pair of surrogates. -/
def isHigh (unit : Nat) : Bool := 0xd800 ≤ unit && unit < 0xdc00

/-- Whether a unit is the second of a pair of surrogates. -/
def isLow (unit : Nat) : Bool := 0xdc00 ≤ unit && unit < 0xe000

theorem isHigh_iff {unit : Nat} : isHigh unit = true ↔ 0xd800 ≤ unit ∧ unit < 0xdc00 := by simp [isHigh]

theorem isLow_iff {unit : Nat} : isLow unit = true ↔ 0xdc00 ≤ unit ∧ unit < 0xe000 := by simp [isLow]

/-- The character of a unit that stands behind a backslash and the letter u. The first of a pair of
surrogates needs the second behind it, and the pair is one character. -/
def unitChar? (rest : List Char) : Option (Char × Nat) := do
  let unit ← Text.code? 4 rest
  if isHigh unit then
    match rest.drop 4 with
    | '\\' :: 'u' :: more =>
      let low ← Text.code? 4 more
      if isLow low then some (Char.ofNat (0x10000 + 0x400 * (unit - 0xd800) + (low - 0xdc00)), 11) else none
    | _ => none
  else if isLow unit then none
  else some (Char.ofNat unit, 5)

/-- The character that the text of a string begins with, and how many further characters of the text it
takes. Control characters do not stand for themselves. -/
def first? : List Char → Option (Char × Nat)
  | '\\' :: 'u' :: rest => unitChar? rest
  | '\\' :: c :: _ => (escaped? c).map (·, 1)
  | c :: _ => if c = '\\' ∨ c.toNat < 0x20 then none else some (c, 0)
  | [] => none

/-! ### Numbers and names -/

/-- Digits, of which there is one at least. -/
def digits? (text : List Char) : Option (List Char) := if !text.isEmpty && text.all isDigit then some text else none

/-- Whether digits may stand before the point: no zero stands before others. -/
def isWhole (digits : List Char) : Bool := digits.head? != some '0' || digits.length == 1

/-- The digits behind a point; there need not be a point. -/
def fraction? (behind : Option (List Char)) : Option (List Char) := behind.elim (some []) digits?

/-- The power of ten behind its letter; there need not be one. -/
def power? : Option (List Char) → Option Int
  | none => some 0
  | some ('+' :: text) => (digits? text).map fun digits => Text.numberOf 10 digits
  | some ('-' :: text) => (digits? text).map fun digits => -(Text.numberOf 10 digits : Int)
  | some text => (digits? text).map fun digits => Text.numberOf 10 digits

/-- Whether a letter announces a power of ten. -/
def isPowerMark (c : Char) : Bool := c == 'e' || c == 'E'

/-- The number without a sign that a text stands for, as a mantissa and an exponent. -/
def unsigned? (text : List Char) : Option (Nat × Int) := do
  let (before, behind) := Text.cut '.' (text.takeWhile fun c => !isPowerMark c)
  let whole ← digits? before
  let fraction ← fraction? behind
  let power ← power? (text.dropWhile fun c => !isPowerMark c).tail?
  if isWhole whole then some (Text.numberOf 10 (whole ++ fraction), power - fraction.length) else none

/-- The number that a text stands for. -/
def number? : List Char → Option Value
  | '-' :: text => (unsigned? text).map fun (mantissa, exponent) => .number (-mantissa) exponent
  | text => (unsigned? text).map fun (mantissa, exponent) => .number mantissa exponent

/-- What a run of letters, digits and signs stands for: one of three names, or a number. -/
def atom? (run : List Char) : Option Value :=
  if run = "null".toList then some .null
  else if run = "true".toList then some (.truth true)
  else if run = "false".toList then some (.truth false)
  else number? run

/-- The characters of names and numbers. -/
def isAtomChar (c : Char) : Bool := isLetter c || isDigit c || ['+', '-', '.'].contains c

/-! ### Pieces -/

/-- A piece of a text. -/
inductive Piece where
  /-- An opening bracket. -/
  | listStart
  /-- A closing bracket. -/
  | listEnd
  /-- An opening brace. -/
  | objectStart
  /-- A closing brace. -/
  | objectEnd
  /-- A comma. -/
  | comma
  /-- A colon. -/
  | colon
  /-- A value that holds no others. -/
  | scalar (v : Value)

/-- The piece that is a single character. -/
def mark? : Char → Option Piece
  | '[' => some .listStart
  | ']' => some .listEnd
  | '\x7b' => some .objectStart
  | '\x7d' => some .objectEnd
  | ',' => some .comma
  | ':' => some .colon
  | _ => none

/-- The characters that may stand between pieces. -/
def isGap (c : Char) : Bool := c == ' ' || c == '\t' || c == '\n' || c == '\r'

theorem length_readQuoted {quote : Char} {first? : List Char → Option (Char × Nat)} {text xs behind : List Char}
    (h : Text.readQuoted quote first? text = some (xs, behind)) : behind.length < text.length := by
  fun_induction Text.readQuoted quote first? text generalizing xs behind with
  | case1 => cases h
  | case2 rest =>
    cases h
    exact Nat.lt_succ_self _
  | case3 c rest hc ih =>
    obtain ⟨⟨x, further⟩, -, h⟩ := Option.bind_eq_some_iff.1 h
    obtain ⟨⟨xs, behind⟩, hmore, h⟩ := Option.bind_eq_some_iff.1 h
    cases h
    have hshorter := ih _ hmore
    rw [List.length_drop] at hshorter
    rw [List.length_cons]
    omega

/-- The pieces of a text. -/
def pieces (text : List Char) : Option (List Piece) :=
  match text with
  | [] => some []
  | c :: rest =>
    if isGap c then pieces rest
    else
      match mark? c with
      | some mark => (pieces rest).map (mark :: ·)
      | none =>
        if c = '"' then
          match h : Text.readQuoted '"' first? rest with
          | none => none
          | some (chars, behind) =>
            have := length_readQuoted h
            (pieces behind).map (.scalar (.string (String.ofList chars)) :: ·)
        else
          match atom? (c :: rest.takeWhile isAtomChar) with
          | none => none
          | some v =>
            have := (List.dropWhile_sublist (l := rest) isAtomChar).length_le
            (pieces (rest.dropWhile isAtomChar)).map (.scalar v :: ·)
termination_by text.length
decreasing_by all_goals simp only [List.length_cons]; omega

/-! ### Values -/

/-- A list or an object that is still open. -/
inductive Frame where
  /-- A list, with its items so far. -/
  | list (items : List Value)
  /-- An object, with its members so far and the name of the value that comes next. -/
  | object (members : List (String × Value)) (name : String)

mutual

/-- Takes in pieces where a value has to come. A list may also end here, if it has no items yet. -/
def value : List Frame → List Piece → Option Value
  | stack, .scalar v :: ps => after stack v ps
  | stack, .listStart :: ps => value (.list [] :: stack) ps
  | .list [] :: outer, .listEnd :: ps => after outer (.array []) ps
  | stack, .objectStart :: .objectEnd :: ps => after stack (.object []) ps
  | stack, .objectStart :: .scalar (.string name) :: .colon :: ps => value (.object [] name :: stack) ps
  | _, _ => none

/-- Takes in pieces behind a value. -/
def after : List Frame → Value → List Piece → Option Value
  | [], v, [] => some v
  | .list items :: outer, v, .comma :: ps => value (.list (items ++ [v]) :: outer) ps
  | .list items :: outer, v, .listEnd :: ps => after outer (.array (items ++ [v])) ps
  | .object members name :: outer, v, .comma :: .scalar (.string next) :: .colon :: ps =>
    value (.object (members ++ [(name, v)]) next :: outer) ps
  | .object members name :: outer, v, .objectEnd :: ps => after outer (.object (members ++ [(name, v)])) ps
  | _, _, _ => none

end

/-- **What a text stands for**, if it is JSON. -/
def read (text : String) : Option Value := (pieces text.toList).bind (value [])

-- A comma or a value too many, a zero in front, a member without a name, half of a pair, a line feed in a string.
example : ["[1,]", "1 2", "01", "\x7b1\x7d", "\"\\ud83d\"", "\"\n\""].all (fun text => (read text).isNone) := by
  decide +kernel

/-! ### Cutting a text into pieces -/

/-- `Apart text`: nothing at the beginning of the text could be part of a name or number before it. -/
def Apart (text : List Char) : Prop := ∀ c ∈ text.head?, isAtomChar c = false

/-- `Scans text ps`: the text is cut into the pieces `ps`, in front of anything that stands apart from it. -/
def Scans (text : List Char) (ps : List Piece) : Prop :=
  ∀ rest, Apart rest → pieces (text ++ rest) = (pieces rest).map (ps ++ ·)

theorem apart_nil : Apart [] := by simp [Apart]

theorem apart_cons {c : Char} {text : List Char} : Apart (c :: text) ↔ isAtomChar c = false := by simp [Apart]

theorem Apart.append {text rest : List Char} (h : Apart text) (h' : Apart rest) : Apart (text ++ rest) := by
  cases text with
  | nil => exact h'
  | cons c text => exact apart_cons.2 (apart_cons.1 h)

theorem Scans.pieces_eq {text : List Char} {ps : List Piece} (h : Scans text ps) : pieces text = some ps := by
  have hall := h [] apart_nil
  rw [List.append_nil, pieces] at hall
  simpa using hall

theorem isGap_iff {c : Char} : isGap c = true ↔ c = ' ' ∨ c = '\t' ∨ c = '\n' ∨ c = '\r' := by simp [isGap, or_assoc]

section

variable {text more : List Char} {ps qs : List Piece} {c : Char} {v : Value}

theorem scans_nil : Scans [] [] := by
  intro rest _
  simp

/-- Blanks are no pieces. -/
theorem Scans.gaps {gaps : List Char} (hgaps : ∀ c ∈ gaps, isGap c = true) (h : Scans text ps) :
    Scans (gaps ++ text) ps := by
  intro rest hrest
  induction gaps with
  | nil => exact h rest hrest
  | cons c gaps ih =>
    rw [List.forall_mem_cons] at hgaps
    rw [List.cons_append, List.cons_append, pieces, if_pos hgaps.1]
    exact ih hgaps.2

/-- A bracket, a brace, a comma and a colon is a piece. -/
theorem Scans.mark {mark : Piece} (hmark : mark? c = some mark) (h : Scans text ps) :
    Scans (c :: text) (mark :: ps) := by
  intro rest hrest
  have hgap : ¬ isGap c = true := by
    intro hgap
    obtain rfl | rfl | rfl | rfl := isGap_iff.1 hgap
    all_goals cases hmark
  rw [List.cons_append, pieces, if_neg hgap, hmark]
  simp only [h rest hrest, Option.map_map]
  rfl

theorem Scans.append (h : Scans text ps) (h' : Scans more qs) (hmore : Apart more) :
    Scans (text ++ more) (ps ++ qs) := by
  intro rest hrest
  rw [List.append_assoc, h _ (hmore.append hrest), h' rest hrest, Option.map_map]
  congr 1
  funext rs
  exact (List.append_assoc ps qs rs).symm

/-- A string is one piece, if its characters are written so that they are found again. -/
theorem scans_string {written : Char → List Char} (h : Text.Undoes first? '"' written) (text : String) :
    Scans ('"' :: (text.toList.flatMap written ++ ['"'])) [.scalar (.string text)] := by
  intro rest _
  have hmark : mark? '"' = none := rfl
  rw [List.cons_append, List.append_assoc, pieces, if_neg (by decide)]
  simp only [hmark, if_true]
  split
  · next hread =>
    rw [List.singleton_append, Text.readQuoted_append h] at hread
    cases hread
  · next hread =>
    rw [List.singleton_append, Text.readQuoted_append h] at hread
    cases hread
    rw [String.ofList_toList]
    rfl

theorem mark?_eq_none_of_isAtomChar (h : isAtomChar c = true) : mark? c = none := by
  unfold mark?
  split
  case h_7 => rfl
  all_goals exact absurd h (by decide)

/-- A name or a number is one piece. -/
theorem scans_atom (hne : text ≠ []) (htext : ∀ c ∈ text, isAtomChar c = true) (hvalue : atom? text = some v) :
    Scans text [.scalar v] := by
  intro rest hrest
  obtain ⟨c, cs, rfl⟩ := List.exists_cons_of_ne_nil hne
  rw [List.forall_mem_cons] at htext
  obtain ⟨hc, hcs⟩ := htext
  have hgap : ¬ isGap c = true := by
    intro hgap
    obtain rfl | rfl | rfl | rfl := isGap_iff.1 hgap
    all_goals exact absurd hc (by decide)
  have hquote : c ≠ '"' := ne_of_class hc rfl
  rw [List.cons_append, pieces, if_neg hgap, mark?_eq_none_of_isAtomChar hc]
  simp only [if_neg hquote, Lexeme.takeWhile_append_stop hcs hrest, hvalue, Lexeme.dropWhile_append_stop hcs hrest]
  rfl

end

end Stylesheet.JsonText
