import Stylesheet.CharClass
import Stylesheet.Token

/-!
# Lexemes

A lexeme is a token as it is spelled: the delimiters, and whether the closing one is there,
are part of it. `Lexeme.first?` finds the lexeme a text begins with, and `Lexeme.spelling`
writes a lexeme back.

Main statements: the spelling of the first lexeme is a beginning of the text
(`spelling_isPrefix`), so nothing is lost, and it is not empty (`spelling_ne_nil`), so
reading makes progress.
-/

namespace Stylesheet

/-- The two characters that a quoted text may stand between. -/
inductive Quote where
  /-- The double quote. -/
  | double
  /-- The single quote. -/
  | single
  deriving DecidableEq, Repr

namespace Quote

/-- The character itself. -/
def char : Quote → Char
  | .double => '"'
  | .single => '\''

/-- The type of the tokens it encloses. -/
def type : Quote → TokenType
  | .double => .stringDouble
  | .single => .stringSingle

end Quote

/-- A token as it is spelled. -/
inductive Lexeme where
  /-- A run of blanks. -/
  | space (run : List Char)
  /-- Two slashes and the rest of the line. -/
  | lineComment (body : List Char)
  /-- A comment between slash-star and star-slash; only at the end of the text may it lack
  the latter. -/
  | blockComment (body : List Char) (closed : Bool)
  /-- Digits with at most one point. -/
  | number (text : List Char)
  /-- A hash and its hexadecimal digits. -/
  | color (digits : List Char)
  /-- One character that is a token by itself. -/
  | punctuation (c : Char)
  /-- One operator character or a run of one. -/
  | operator (text : List Char)
  /-- A name. -/
  | identifier (name : List Char)
  /-- A text between quotes; only at the end of the text may it lack the second one. -/
  | quoted (quote : Quote) (body : List Char) (closed : Bool)
  /-- An at sign and a name that may be empty. -/
  | atRule (name : List Char)
  /-- A dollar sign and a name that may be empty. -/
  | variableName (name : List Char)
  deriving DecidableEq, Repr

namespace Lexeme

/-! ### What a lexeme stands for -/

/-- The type of token a lexeme makes. -/
def type : Lexeme → TokenType
  | .space _ => .space
  | .lineComment _ => .comment
  | .blockComment _ _ => .comment
  | .number _ => .number
  | .color _ => .colorHex
  | .punctuation _ => .punctuation
  | .operator _ => .operator
  | .identifier _ => .identifier
  | .quoted q _ _ => q.type
  | .atRule _ => .atRule
  | .variableName _ => .variableName

/-- The value of the token a lexeme makes: its spelling without delimiters. -/
def value : Lexeme → List Char
  | .space run => run
  | .lineComment body => body
  | .blockComment body _ => body
  | .number text => text
  | .color digits => digits
  | .punctuation c => [c]
  | .operator text => text
  | .identifier name => name
  | .quoted _ body _ => body
  | .atRule name => name
  | .variableName name => name

/-- The text of a lexeme. -/
def spelling : Lexeme → List Char
  | .space run => run
  | .lineComment body => '/' :: '/' :: body
  | .blockComment body closed => '/' :: '*' :: (body ++ if closed then ['*', '/'] else [])
  | .number text => text
  | .color digits => '#' :: digits
  | .punctuation c => [c]
  | .operator text => text
  | .identifier name => name
  | .quoted q body closed => q.char :: (body ++ if closed then [q.char] else [])
  | .atRule name => '@' :: name
  | .variableName name => '$' :: name

/-- The token a lexeme makes where it stands. -/
def toToken (l : Lexeme) (start : Position) : Token :=
  ⟨l.type, String.ofList l.value, start, start.advance l.spelling⟩

/-! ### Where delimited lexemes end -/

/-- The body of a block comment whose opener has been read, and whether it is closed: the
text up to the first star that a slash follows, or all of it. -/
def blockBody : List Char → List Char × Bool
  | [] => ([], false)
  | '*' :: '/' :: _ => ([], true)
  | c :: cs =>
    let (body, closed) := blockBody cs
    (c :: body, closed)

/-- The body of a quoted text whose opening quote has been read, and whether it is closed: a
backslash takes the next character with it, whatever that is. -/
def quotedBody (quote : Char) : List Char → List Char × Bool
  | [] => ([], false)
  | '\\' :: d :: cs =>
    let (body, closed) := quotedBody quote cs
    ('\\' :: d :: body, closed)
  | c :: cs =>
    if c = quote then ([], true)
    else
      let (body, closed) := quotedBody quote cs
      (c :: body, closed)

/-- The longest beginning that is digits with at most one point. -/
def numberRun (text : List Char) : List Char :=
  text.takeWhile isDigit ++
    match text.dropWhile isDigit with
    | '.' :: rest => '.' :: rest.takeWhile isDigit
    | _ => []

/-- The digits of a colour whose hash has been read: a run of exactly three or six. Seven
characters are enough to see that a run is longer. -/
def colorDigits? (text : List Char) : Option (List Char) :=
  let run := (text.take 7).takeWhile isHexDigit
  if run.length = 3 ∨ run.length = 6 then some run else none

end Lexeme

/-! ### How lexemes open -/

/-- The ways in which a lexeme can begin. -/
inductive Opening where
  /-- With a blank. -/
  | blank
  /-- With two slashes. -/
  | lineComment
  /-- With a slash and a star. -/
  | blockComment
  /-- With a digit, or a point that a digit follows. -/
  | number
  /-- With a hash, which may open a colour or stand alone. -/
  | hash
  /-- With a character that is a token by itself. -/
  | punctuation
  /-- With the first character of an identifier. -/
  | identifier
  /-- With an operator character. -/
  | operator
  /-- With a quote. -/
  | quoted (quote : Quote)
  /-- With an at sign. -/
  | atRule
  /-- With a dollar sign. -/
  | variableName
  deriving DecidableEq, Repr

namespace Opening

/-- Every opening, in the order in which they are tried. -/
def all : List Opening :=
  [.blank, .lineComment, .blockComment, .number, .hash, .punctuation, .identifier, .operator,
    .quoted .double, .quoted .single, .atRule, .variableName]

/-- Whether a character, given the one after it, begins in this way. -/
def fits (o : Opening) (c : Char) (next : Option Char) : Bool :=
  match o with
  | .blank => isBlank c
  | .lineComment => c == '/' && next == some '/'
  | .blockComment => c == '/' && next == some '*'
  | .number => isDigit c || (c == '.' && next.any isDigit)
  | .hash => c == '#'
  | .punctuation => isPunctuation c
  | .identifier => isIdentStart c
  | .operator => isOperator c
  | .quoted q => c == q.char
  | .atRule => c == '@'
  | .variableName => c == '$'

/-- The opening that a character and the one after it make: the first that fits. Some
characters open nothing. -/
def of? (c : Char) (next : Option Char) : Option Opening := all.find? (·.fits c next)

/-- The lexeme that opens with `c` and goes on in `cs`. -/
def lexeme (o : Opening) (c : Char) (cs : List Char) : Lexeme :=
  match o with
  | .blank => .space (c :: cs.takeWhile isBlank)
  | .lineComment => .lineComment (cs.tail.takeWhile (!isLineBreak ·))
  | .blockComment =>
    let (body, closed) := Lexeme.blockBody cs.tail
    .blockComment body closed
  | .number => .number (Lexeme.numberRun (c :: cs))
  | .hash =>
    match Lexeme.colorDigits? cs with
    | some digits => .color digits
    | none => .punctuation c
  | .punctuation => .punctuation c
  | .identifier => .identifier (c :: cs.takeWhile isIdentChar)
  | .operator => .operator (if isRepeatable c then c :: cs.takeWhile (· == c) else [c])
  | .quoted q =>
    let (body, closed) := Lexeme.quotedBody q.char cs
    .quoted q body closed
  | .atRule => .atRule (cs.takeWhile isIdentChar)
  | .variableName => .variableName (cs.takeWhile isIdentChar)

end Opening

namespace Lexeme

/-- The lexeme a text begins with. There is none if the text is empty or its first character
opens nothing. -/
def first? : List Char → Option Lexeme
  | [] => none
  | c :: cs => (Opening.of? c cs.head?).map (·.lexeme c cs)

/-! ### Nothing is lost and something is read -/

theorem blockBody_isPrefix (text : List Char) :
    (blockBody text).1 ++ (if (blockBody text).2 then ['*', '/'] else []) <+: text := by
  fun_induction blockBody text with
  | case1 => simp
  | case2 rest => simp
  | case3 c cs _ body closed h ih => simpa [h] using ih

theorem quotedBody_isPrefix (quote : Char) (text : List Char) :
    (quotedBody quote text).1 ++ (if (quotedBody quote text).2 then [quote] else []) <+: text := by
  fun_induction quotedBody quote text with
  | case1 => simp
  | case2 d cs body closed h ih => simpa [h] using ih
  | case3 cs _ => simp
  | case4 c cs _ hc body closed h ih => simpa [h] using ih

theorem numberRun_isPrefix (text : List Char) : numberRun text <+: text := by
  unfold numberRun
  conv => rhs; rw [← List.takeWhile_append_dropWhile (p := isDigit) (l := text)]
  rw [List.prefix_append_right_inj]
  split
  · next rest h => rw [h]; simpa using List.takeWhile_prefix isDigit
  · simp

theorem colorDigits?_isPrefix {text digits : List Char} (h : colorDigits? text = some digits) :
    digits <+: text := by
  simp only [colorDigits?] at h
  split at h
  · cases h
    exact (List.takeWhile_prefix _).trans (List.take_prefix _ _)
  · cases h

theorem numberRun_ne_nil {c : Char} {cs : List Char}
    (h : isDigit c || (c == '.' && cs.head?.any isDigit)) : numberRun (c :: cs) ≠ [] := by
  unfold numberRun
  by_cases hc : isDigit c
  · simp [hc]
  · have hp : c = '.' := by simp_all
    subst hp
    simp [hc]

end Lexeme

namespace Opening

theorem fits_of_of? {c : Char} {next : Option Char} {o : Opening} (h : of? c next = some o) :
    o.fits c next :=
  List.find?_some (p := fun o : Opening => o.fits c next) h

/-- A lexeme is spelled as its text begins. -/
theorem spelling_lexeme_isPrefix {o : Opening} {c : Char} {cs : List Char}
    (h : o.fits c cs.head?) : (o.lexeme c cs).spelling <+: c :: cs := by
  cases o with
  | blank => simpa [lexeme, Lexeme.spelling] using List.takeWhile_prefix _
  | lineComment =>
    obtain ⟨rfl, hs⟩ : c = '/' ∧ cs.head? = _ := by simpa [fits] using h
    obtain ⟨rest, rfl⟩ := List.head?_eq_some_iff.1 hs
    simpa [lexeme, Lexeme.spelling] using List.takeWhile_prefix _
  | blockComment =>
    obtain ⟨rfl, hs⟩ : c = '/' ∧ cs.head? = _ := by simpa [fits] using h
    obtain ⟨rest, rfl⟩ := List.head?_eq_some_iff.1 hs
    simpa [lexeme, Lexeme.spelling] using Lexeme.blockBody_isPrefix rest
  | number => exact Lexeme.numberRun_isPrefix (c :: cs)
  | hash =>
    obtain rfl : c = '#' := by simpa [fits] using h
    simp only [lexeme]
    split
    · next hd => simpa [Lexeme.spelling] using Lexeme.colorDigits?_isPrefix hd
    · simp [Lexeme.spelling]
  | punctuation => simp [lexeme, Lexeme.spelling]
  | identifier => simpa [lexeme, Lexeme.spelling] using List.takeWhile_prefix _
  | operator =>
    simp only [lexeme, Lexeme.spelling]
    split
    · simpa using List.takeWhile_prefix _
    · simp
  | quoted q =>
    obtain rfl : c = q.char := by simpa [fits] using h
    simpa [lexeme, Lexeme.spelling] using Lexeme.quotedBody_isPrefix q.char cs
  | atRule =>
    obtain rfl : c = '@' := by simpa [fits] using h
    simpa [lexeme, Lexeme.spelling] using List.takeWhile_prefix _
  | variableName =>
    obtain rfl : c = '$' := by simpa [fits] using h
    simpa [lexeme, Lexeme.spelling] using List.takeWhile_prefix _

/-- A lexeme is not empty. -/
theorem spelling_lexeme_ne_nil {o : Opening} {c : Char} {cs : List Char}
    (h : o.fits c cs.head?) : (o.lexeme c cs).spelling ≠ [] := by
  cases o with
  | number => exact Lexeme.numberRun_ne_nil h
  | hash => simp only [lexeme]; split <;> simp [Lexeme.spelling]
  | operator => simp only [lexeme, Lexeme.spelling]; split <;> simp
  | _ => simp [lexeme, Lexeme.spelling]

end Opening

namespace Lexeme

theorem first?_eq_some_iff {text : List Char} {l : Lexeme} :
    first? text = some l ↔
      ∃ c cs o, text = c :: cs ∧ Opening.of? c cs.head? = some o ∧ o.lexeme c cs = l := by
  cases text with
  | nil => simp [first?]
  | cons c cs =>
    constructor
    · intro h
      obtain ⟨o, ho, hl⟩ := Option.map_eq_some_iff.1 h
      exact ⟨c, cs, o, rfl, ho, hl⟩
    · rintro ⟨_, _, o, ⟨⟩, ho, hl⟩
      exact Option.map_eq_some_iff.2 ⟨o, ho, hl⟩

/-- The first lexeme of a text is spelled as the text begins. -/
theorem spelling_isPrefix {text : List Char} {l : Lexeme} (h : first? text = some l) :
    l.spelling <+: text := by
  obtain ⟨c, cs, o, rfl, ho, rfl⟩ := first?_eq_some_iff.1 h
  exact Opening.spelling_lexeme_isPrefix (Opening.fits_of_of? ho)

/-- The first lexeme of a text is not empty. -/
theorem spelling_ne_nil {text : List Char} {l : Lexeme} (h : first? text = some l) :
    l.spelling ≠ [] := by
  obtain ⟨c, cs, o, rfl, ho, rfl⟩ := first?_eq_some_iff.1 h
  exact Opening.spelling_lexeme_ne_nil (Opening.fits_of_of? ho)

end Lexeme

end Stylesheet
