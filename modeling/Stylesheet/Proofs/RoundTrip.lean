import Stylesheet.Proofs.Grammar

/-!
# Lexemes with blanks between them are read back

The lexemes of a stylesheet, written one behind the other with blanks between them, are read as
those lexemes and the blanks: nothing is run together, split, or taken for a lexeme of another
kind, whatever comments and strings may hold. A line comment goes to the end of its line, so the
blanks behind one begin with a line feed.

`Piece.IsLexeme` is the grammar of what may be written, each text with the token it stands for,
and does not mention the reader. The reason that it is read back is that a blank ends every
lexeme but a run of blanks (`ends_blank`), and that no other lexeme begins with one
(`exists_cons_spelling`). Main statement: `all_spaced`.
-/

namespace Stylesheet

/-! ### What is written -/

/-- A piece of text, and the type and the value of the token it stands for. -/
structure Piece where
  /-- The type of the token. -/
  type : TokenType
  /-- The value of the token. -/
  value : List Char
  /-- The text itself, delimiters included. -/
  raw : List Char
  deriving DecidableEq, Repr

namespace Piece

/-- The lexemes that can stand between blanks: all but blanks themselves, closed if their kind has
a closing delimiter. -/
inductive IsLexeme : Piece → Prop where
  /-- A letter or an underscore, and what may follow in a name. -/
  | identifier {c : Char} {cs : List Char} : isIdentStart c = true → (∀ d ∈ cs, isIdentChar d = true) →
      IsLexeme ⟨.identifier, c :: cs, c :: cs⟩
  /-- Digits with at most one point. -/
  | number {text : List Char} : Lexeme.IsNumber text → IsLexeme ⟨.number, text, text⟩
  /-- A hash and three or six hexadecimal digits. -/
  | color {digits : List Char} : digits.length = 3 ∨ digits.length = 6 → (∀ c ∈ digits, isHexDigit c = true) →
      IsLexeme ⟨.colorHex, digits, '#' :: digits⟩
  /-- One character of punctuation. -/
  | punctuation {c : Char} : isPunctuation c = true → IsLexeme ⟨.punctuation, [c], [c]⟩
  /-- One operator character, or copies of one that repeats. -/
  | operator {text : List Char} : Lexeme.IsOperator text → IsLexeme ⟨.operator, text, text⟩
  /-- A text between double quotes. -/
  | double {body : List Char} : Lexeme.QuotedText '"' body →
      IsLexeme ⟨.stringDouble, body, '"' :: (body ++ ['"'])⟩
  /-- A text between single quotes. -/
  | single {body : List Char} : Lexeme.QuotedText '\'' body →
      IsLexeme ⟨.stringSingle, body, '\'' :: (body ++ ['\''])⟩
  /-- A comment that star and slash end, for the first time. -/
  | blockComment {body : List Char} : ¬ ['*', '/'] <:+: body →
      IsLexeme ⟨.comment, body, '/' :: '*' :: (body ++ ['*', '/'])⟩
  /-- A comment on one line. -/
  | lineComment {body : List Char} : '\n' ∉ body → IsLexeme ⟨.comment, body, '/' :: '/' :: body⟩
  /-- An at sign and what may follow in a name. -/
  | atRule {name : List Char} : (∀ c ∈ name, isIdentChar c = true) → IsLexeme ⟨.atRule, name, '@' :: name⟩
  /-- A dollar sign and what may follow in a name. -/
  | variableName {name : List Char} : (∀ c ∈ name, isIdentChar c = true) →
      IsLexeme ⟨.variableName, name, '$' :: name⟩

/-- Blanks that may stand behind a piece: at least one, and a line feed first if the piece is a
line comment. -/
def Separates (w : List Char) (x : Piece) : Prop :=
  w ≠ [] ∧ (∀ c ∈ w, isBlank c = true) ∧ (['/', '/'] <+: x.raw → w.head? = some '\n')

/-- `Spaced x more`: a lexeme `x` and others, each with the blanks that stand before it. -/
def Spaced : Piece → List (List Char × Piece) → Prop
  | x, [] => x.IsLexeme
  | x, (w, y) :: more => x.IsLexeme ∧ Separates w x ∧ Spaced y more

/-- The lexemes together with the blanks between them. -/
def withBlanks (x : Piece) (more : List (List Char × Piece)) : List Piece :=
  x :: more.flatMap fun y => [⟨.space, y.1, y.1⟩, y.2]

/-- The tokens that pieces stand for, the first at a position and each of the others where the one
before it ends. -/
def layOut : Position → List Piece → List Token
  | _, [] => []
  | p, x :: xs => ⟨x.type, String.ofList x.value, p, p.advance x.raw⟩ :: layOut (p.advance x.raw) xs

theorem Spaced.isLexeme {x : Piece} {more : List (List Char × Piece)} (h : Spaced x more) : x.IsLexeme := by
  cases more with
  | nil => exact h
  | cons y more => exact h.1

theorem flatMap_raw_withBlanks (x : Piece) (more : List (List Char × Piece)) :
    (withBlanks x more).flatMap raw = x.raw ++ more.flatMap fun y => y.1 ++ y.2.raw := by
  rw [withBlanks, List.flatMap_cons, List.flatMap_assoc]
  simp

end Piece

namespace Lexeme

/-- A lexeme of the reader that can stand between blanks: it is closed, and no run of blanks
itself. -/
structure Standalone (l : Lexeme) : Prop where
  /-- It follows the grammar. -/
  wellFormed : l.WellFormed
  /-- It has the closing delimiter of its kind. -/
  closed : l.closed = true
  /-- It is no run of blanks. -/
  not_space : l.type ≠ .space

/-- The text of a lexeme, with what the reader makes of it. -/
def piece (l : Lexeme) : Piece := ⟨l.type, l.value, l.spelling⟩

/-- What is written is a lexeme of the reader, with the same type and value. -/
theorem exists_piece_eq {x : Piece} (h : x.IsLexeme) : ∃ l : Lexeme, l.Standalone ∧ l.piece = x := by
  cases h with
  | @identifier c cs hc hcs => exact ⟨.identifier (c :: cs), ⟨⟨c, cs, rfl, hc, hcs⟩, rfl, nofun⟩, rfl⟩
  | @number text h => exact ⟨.number text, ⟨h, rfl, nofun⟩, rfl⟩
  | @color digits hl h => exact ⟨.color digits, ⟨⟨hl, h⟩, rfl, nofun⟩, rfl⟩
  | @punctuation c h => exact ⟨.punctuation c, ⟨h, rfl, nofun⟩, rfl⟩
  | @operator text h => exact ⟨.operator text, ⟨h, rfl, nofun⟩, rfl⟩
  | @double body h => exact ⟨.quoted .double body true, ⟨.inl h, rfl, nofun⟩, rfl⟩
  | @single body h => exact ⟨.quoted .single body true, ⟨.inl h, rfl, nofun⟩, rfl⟩
  | @blockComment body h => exact ⟨.blockComment body true, ⟨h, rfl, nofun⟩, rfl⟩
  | @lineComment body h => exact ⟨.lineComment body, ⟨h, rfl, nofun⟩, rfl⟩
  | @atRule name h => exact ⟨.atRule name, ⟨h, rfl, nofun⟩, rfl⟩
  | @variableName name h => exact ⟨.variableName name, ⟨h, rfl, nofun⟩, rfl⟩

theorem layOut_map_piece (p : Position) (ls : List Lexeme) : Piece.layOut p (ls.map piece) = toTokens p ls := by
  induction ls generalizing p with
  | nil => rfl
  | cons l ls ih =>
    rw [List.map_cons, Piece.layOut, toTokens]
    exact congrArg (_ :: ·) (ih _)

theorem flatMap_raw_map_piece (ls : List Lexeme) : (ls.map piece).flatMap Piece.raw = spelled ls := by
  rw [List.flatMap_map, spelled]
  rfl

/-! ### Blanks end lexemes -/

/-- The end of the text ends every lexeme. -/
theorem ends_nil (l : Lexeme) : l.Ends [] := by
  have hnext : ∀ {P : Char → Prop}, ∀ d ∈ ([] : List Char).head?, P d := by
    rintro P d ⟨⟩
  cases l with
  | punctuation c => exact ⟨fun _ => hnext, fun _ => rfl⟩
  | operator text => exact ⟨hnext, fun _ => hnext⟩
  | blockComment body closed => exact fun _ => rfl
  | quoted q body closed => exact fun _ => rfl
  | _ => exact hnext

/-- A blank ends every closed lexeme but blanks, and a line feed ends line comments too. -/
theorem ends_blank {l : Lexeme} (hl : l.Standalone) {c : Char} {cs : List Char} (hc : isBlank c = true)
    (hline : ∀ body, l = .lineComment body → c = '\n') : l.Ends (c :: cs) := by
  obtain ⟨hdigit, hhex, hident, hrepeat, hpoint, hslash, hstar⟩ := classes_of_isBlank hc
  have hnext : ∀ {P : Char → Prop}, P c → ∀ d ∈ (c :: cs).head?, P d := by
    rintro P h d ⟨⟩
    exact h
  cases l with
  | space run => exact absurd rfl hl.not_space
  | lineComment body => exact hnext (hline body rfl)
  | blockComment body closed => exact fun h => Bool.noConfusion (h.symm.trans hl.closed)
  | number text => exact hnext ⟨hdigit, fun h => absurd h hpoint⟩
  | color digits => exact hnext hhex
  | punctuation p =>
    refine ⟨fun _ => hnext hdigit, fun _ => ?_⟩
    rw [colorDigits?, List.take_succ_cons, List.takeWhile_cons_of_neg (ne_true_of_eq_false hhex)]
    rfl
  | operator text =>
    refine ⟨hnext fun h => ?_, fun _ => hnext ⟨hslash, hstar⟩⟩
    rw [hrepeat] at h
    cases h
  | identifier name => exact hnext hident
  | quoted q body closed => exact fun h => Bool.noConfusion (h.symm.trans hl.closed)
  | atRule name => exact hnext hident
  | variableName name => exact hnext hident

/-- A lexeme that is no run of blanks begins with another character: with a blank it would be
read as one. -/
theorem exists_cons_spelling {l : Lexeme} (hl : l.Standalone) :
    ∃ c cs, l.spelling = c :: cs ∧ isBlank c = false := by
  have hfirst := first?_append hl.wellFormed (ends_nil l)
  rw [List.append_nil] at hfirst
  obtain ⟨c, cs, hs⟩ := List.exists_cons_of_ne_nil (spelling_ne_nil hfirst)
  refine ⟨c, cs, hs, ?_⟩
  rw [← Bool.not_eq_true]
  intro hblank
  rw [hs, first?_cons (Opening.of?_blank hblank) rfl] at hfirst
  exact hl.not_space (by rw [← Option.some.inj hfirst]; rfl)

/-! ### Reading them back -/

/-- **Spaced lexemes are cut where they were joined.** -/
theorem cuts_withBlanks {x : Piece} {more : List (List Char × Piece)} (h : Piece.Spaced x more) :
    ∃ ls, ls.map piece = Piece.withBlanks x more ∧ Cuts (spelled ls) ls [] := by
  induction more generalizing x with
  | nil =>
    obtain ⟨l, hl, rfl⟩ := exists_piece_eq h
    exact ⟨[l], rfl, .read (first?_append hl.wellFormed (ends_nil l)) rfl (.stop rfl)⟩
  | cons z more ih =>
    obtain ⟨w, y⟩ := z
    obtain ⟨hx, ⟨hne, hblank, hline⟩, hmore⟩ := h
    obtain ⟨l, hl, rfl⟩ := exists_piece_eq hx
    obtain ⟨ls, hls, hcuts⟩ := ih hmore
    have hread : first? (l.spelling ++ (w ++ spelled ls)) = some l := by
      obtain ⟨b, bs, rfl⟩ := List.exists_cons_of_ne_nil hne
      refine first?_append hl.wellFormed (ends_blank hl (hblank b List.mem_cons_self) ?_)
      rintro body rfl
      exact Option.some.inj (hline (List.prefix_append ['/', '/'] body))
    have hspace : first? (w ++ spelled ls) = some (.space w) := by
      obtain ⟨l', hl', rfl⟩ := exists_piece_eq hmore.isLexeme
      obtain ⟨c, cs, hs, hc⟩ := exists_cons_spelling hl'
      refine first?_append (l := .space w) ⟨hne, hblank⟩ ?_
      rw [← flatMap_raw_map_piece, hls, Piece.flatMap_raw_withBlanks]
      intro d hd
      rw [show (piece l').raw = c :: cs from hs] at hd
      cases hd
      exact hc
    refine ⟨l :: .space w :: ls, ?_, .read hread rfl (.read hspace rfl hcuts)⟩
    rw [List.map_cons, List.map_cons, hls]
    rfl

/-- **Round trip.** The text of spaced lexemes can be read to its end, and gives a token for each
lexeme and for the blanks between them, in order and end to end: a lexeme's with its own type and
its value without the delimiters, and one of type space for each run of blanks. -/
theorem all_spaced {x : Piece} {more : List (List Char × Piece)} (h : Piece.Spaced x more) :
    (TokenStream.ofSource (String.ofList (x.raw ++ more.flatMap fun y => y.1 ++ y.2.raw))).all.1 =
      .ok (Piece.layOut .start (Piece.withBlanks x more)) := by
  obtain ⟨ls, hls, hcuts⟩ := cuts_withBlanks h
  rw [← Piece.flatMap_raw_withBlanks, ← hls, flatMap_raw_map_piece, layOut_map_piece]
  have hsource : Cuts (String.ofList (spelled ls)).toList ls [] := by
    rw [String.toList_ofList]
    exact hcuts
  rw [TokenStream.all_ofSource, tokenize_of_cuts hsource]
  rfl

/-- A line comment with a quote in it, a string with an escaped quote and an opener of comments in
it, a number and a repeated operator. -/
theorem all_spaced_mixed :
    Piece.Spaced ⟨.comment, ['"', '#'], ['/', '/', '"', '#']⟩
        [(['\n', '\t'], ⟨.stringDouble, ['\\', '"', '/', '*'], ['"', '\\', '"', '/', '*', '"']⟩),
          ([' '], ⟨.number, ['.', '5'], ['.', '5']⟩), ([' '], ⟨.operator, ['=', '='], ['=', '=']⟩)] ∧
      (TokenStream.ofSource "//\"#\n\t\"\\\"/*\" .5 ==").all.1 = .ok
        [⟨.comment, "\"#", ⟨0, 1, 0⟩, ⟨4, 1, 4⟩⟩, ⟨.space, "\n\t", ⟨4, 1, 4⟩, ⟨6, 2, 1⟩⟩,
          ⟨.stringDouble, "\\\"/*", ⟨6, 2, 1⟩, ⟨12, 2, 7⟩⟩, ⟨.space, " ", ⟨12, 2, 7⟩, ⟨13, 2, 8⟩⟩,
          ⟨.number, ".5", ⟨13, 2, 8⟩, ⟨15, 2, 10⟩⟩, ⟨.space, " ", ⟨15, 2, 10⟩, ⟨16, 2, 11⟩⟩,
          ⟨.operator, "==", ⟨16, 2, 11⟩, ⟨18, 2, 13⟩⟩] := by
  have hcomment : Piece.IsLexeme ⟨.comment, ['"', '#'], ['/', '/', '"', '#']⟩ := .lineComment (by decide)
  have hstring : Piece.IsLexeme ⟨.stringDouble, ['\\', '"', '/', '*'], ['"', '\\', '"', '/', '*', '"']⟩ :=
    .double (.escape (.char (by decide) (by decide) (.char (by decide) (by decide) .nil)))
  have hnumber : Piece.IsLexeme ⟨.number, ['.', '5'], ['.', '5']⟩ :=
    .number ⟨[], ['5'], List.forall_mem_nil _, List.forall_mem_singleton.2 rfl, .inr (.inr ⟨by decide, rfl⟩)⟩
  have hoperator : Piece.IsLexeme ⟨.operator, ['=', '='], ['=', '=']⟩ := .operator ⟨'=', rfl, .inr ⟨rfl, 1, rfl⟩⟩
  have hspace : ∀ c ∈ [' '], isBlank c = true := List.forall_mem_singleton.2 rfl
  have hfeed : ∀ c ∈ ['\n', '\t'], isBlank c = true :=
    List.forall_mem_cons.2 ⟨rfl, List.forall_mem_singleton.2 rfl⟩
  have hspaced : Piece.Spaced ⟨.comment, ['"', '#'], ['/', '/', '"', '#']⟩
      [(['\n', '\t'], ⟨.stringDouble, ['\\', '"', '/', '*'], ['"', '\\', '"', '/', '*', '"']⟩),
        ([' '], ⟨.number, ['.', '5'], ['.', '5']⟩), ([' '], ⟨.operator, ['=', '='], ['=', '=']⟩)] :=
    ⟨hcomment, ⟨by decide, hfeed, fun _ => rfl⟩, hstring, ⟨by decide, hspace, fun h => absurd h (by decide)⟩,
      hnumber, ⟨by decide, hspace, fun h => absurd h (by decide)⟩, hoperator⟩
  refine ⟨hspaced, (all_spaced hspaced).trans (congrArg Except.ok ?_)⟩
  decide

end Lexeme

end Stylesheet
