import Stylesheet.Dump
import Stylesheet.Proofs.DisplayLines
import Stylesheet.Proofs.ReadBack

/-!
# Text dumps are read back

A token's line has no columns of a fixed width: a span may be long, and padding never shortens it. Still
the line tells everything but the two cursors. A span and a type's name hold no space, so they are the first
two words of the line (`takeWord_leftAligned`); the four integers of a span are read off one after the
other (`takeSpan_plainSpan`); and the value is what stands between the quotes, of which the first character of the
third column tells the kind (`unquote_quoted`). No limit on the digits of integers is observed here:
`Rendering` adds it.

Everything in a line but its last character is printable, and no character that ends a line is. So a
dump has one line for each token, whatever the values are (`lines_textDump`), and two dumps are equal only
if their tokens are (`textDump_eq_iff`), but for the cursors.
-/

namespace Stylesheet

/-! ### Quoted text -/

namespace Text

/-- The character that a quoted text begins with behind its quote, and how many further characters of the
text it takes. -/
def unescaped? : List Char → Option (Char × Nat)
  | '\\' :: 'n' :: _ => some ('\n', 1)
  | '\\' :: 'r' :: _ => some ('\r', 1)
  | '\\' :: 't' :: _ => some ('\t', 1)
  | '\\' :: 'x' :: rest => (code? 2 rest).map (Char.ofNat ·, 3)
  | '\\' :: 'u' :: rest => (code? 4 rest).map (Char.ofNat ·, 5)
  | '\\' :: 'U' :: rest => (code? 8 rest).map (Char.ofNat ·, 9)
  | '\\' :: c :: _ => some (c, 1)
  | c :: _ => some (c, 0)
  | [] => none

/-- The text between quotes that a text begins with, and what stands behind it. -/
def unquote : List Char → Option (List Char × List Char)
  | [] => none
  | quote :: rest => readQuoted quote unescaped? rest

theorem delimiter_cases (text : List Char) : delimiter text = '\'' ∨ delimiter text = '"' := by
  unfold delimiter
  split
  · exact .inr rfl
  · exact .inl rfl

/-- The ways to write a character between quotes: behind a backslash, by a letter, as itself, or by its code. -/
theorem quotedChar_cases (quote c : Char) :
    ((quotedChar quote c).toList = ['\\', c] ∧ (c = quote ∨ c = '\\')) ∨
      (∃ letter, (quotedChar quote c).toList = ['\\', letter] ∧ isPrintable letter = true ∧
        ∀ rest, unescaped? ('\\' :: letter :: rest) = some (c, 1)) ∨
      ((quotedChar quote c).toList = [c] ∧ c ≠ quote ∧ c ≠ '\\' ∧ isPrintable c = true) ∨
      quotedChar quote c = codeEscape c := by
  unfold quotedChar
  simp only [Bool.or_eq_true, beq_iff_eq]
  split_ifs with hslash hfeed hreturn htab hprintable
  · exact .inl ⟨String.toList_ofList, hslash⟩
  · exact .inr (.inl ⟨'n', by simp, by decide, by simp [hfeed, unescaped?]⟩)
  · exact .inr (.inl ⟨'r', by simp, by decide, by simp [hreturn, unescaped?]⟩)
  · exact .inr (.inl ⟨'t', by simp, by decide, by simp [htab, unescaped?]⟩)
  · rw [not_or] at hslash
    exact .inr (.inr (.inl ⟨String.toList_singleton c, hslash.1, hslash.2, hprintable⟩))
  · exact .inr (.inr (.inr rfl))

/-- The three forms of a code are a backslash, a letter and digits. -/
theorem codeEscape_cases (c : Char) : ∃ letter width,
    (codeEscape c).toList = '\\' :: letter :: (hexPadded width c.toNat).toList ∧ isPrintable letter = true ∧
      0 < width ∧ c.toNat < 16 ^ width ∧
      ∀ rest, unescaped? ('\\' :: letter :: rest) = (code? width rest).map (Char.ofNat ·, width + 1) := by
  have hvalid : c.toNat < 0xd800 ∨ 0xdfff < c.toNat ∧ c.toNat < 0x110000 := c.valid
  unfold codeEscape
  split_ifs with hshort hlong
  · exact ⟨'x', 2, by rw [String.toList_append]; rfl, by decide, by omega, hshort, fun _ => rfl⟩
  · exact ⟨'u', 4, by rw [String.toList_append]; rfl, by decide, by omega, hlong, fun _ => rfl⟩
  · exact ⟨'U', 8, by rw [String.toList_append]; rfl, by decide, by omega, by omega, fun _ => rfl⟩

theorem unescaped?_slash {c : Char} (h : c = '\'' ∨ c = '"' ∨ c = '\\') (rest : List Char) :
    unescaped? ('\\' :: c :: rest) = some (c, 1) := by
  obtain rfl | rfl | rfl := h
  all_goals rfl

theorem unescaped?_plain {c : Char} (h : c ≠ '\\') (rest : List Char) : unescaped? (c :: rest) = some (c, 0) := by
  rw [unescaped?]
  all_goals simp [h]

theorem undoes_quotedChar {quote : Char} (hquote : quote = '\'' ∨ quote = '"') :
    Undoes unescaped? quote (fun c => (quotedChar quote c).toList) where
  cons c := by
    have hslash : '\\' ≠ quote := by
      obtain rfl | rfl := hquote
      all_goals decide
    obtain ⟨hwritten, -⟩ | ⟨letter, hwritten, -⟩ | ⟨hwritten, hc, -⟩ | hwritten := quotedChar_cases quote c
    · exact ⟨'\\', [c], hwritten, hslash⟩
    · exact ⟨'\\', [letter], hwritten, hslash⟩
    · exact ⟨c, [], hwritten, hc⟩
    · obtain ⟨letter, width, hcode, -⟩ := codeEscape_cases c
      rw [hwritten, hcode]
      exact ⟨'\\', _, rfl, hslash⟩
  first c rest := by
    obtain ⟨hwritten, hc⟩ | ⟨letter, hwritten, -, hletter⟩ | ⟨hwritten, -, hc, -⟩ | hwritten := quotedChar_cases quote c
    · have hc : c = '\'' ∨ c = '"' ∨ c = '\\' := by
        obtain rfl | rfl := hc
        · obtain rfl | rfl := hquote
          · exact .inl rfl
          · exact .inr (.inl rfl)
        · exact .inr (.inr rfl)
      rw [hwritten]
      exact unescaped?_slash hc rest
    · rw [hwritten]
      exact hletter rest
    · rw [hwritten]
      exact unescaped?_plain hc rest
    · obtain ⟨letter, width, hcode, -, hwidth, hlt, hread⟩ := codeEscape_cases c
      rw [hwritten, hcode, List.cons_append, List.cons_append, hread, code?_hexPadded hwidth hlt]
      simp [length_hexPadded hwidth hlt]

theorem toList_quoted (text : String) : (quoted text).toList = delimiter text.toList ::
    (text.toList.flatMap (fun c => (quotedChar (delimiter text.toList) c).toList) ++ [delimiter text.toList]) := by
  simp [quoted, String.toList_join, List.flatMap_def, Function.comp_def]

/-- **A quoted text is found again**, whatever follows it. -/
theorem unquote_quoted (text : String) (rest : List Char) :
    unquote ((quoted text).toList ++ rest) = some (text.toList, rest) := by
  rw [toList_quoted, List.cons_append, unquote, List.append_assoc, List.singleton_append]
  exact readQuoted_append (undoes_quotedChar (delimiter_cases _)) text.toList rest

theorem eq_of_quoted_eq {text text' : String} (h : quoted text = quoted text') : text = text' := by
  have hread := unquote_quoted text []
  rw [h, unquote_quoted text' [], Option.some.injEq, Prod.mk.injEq] at hread
  exact (String.toList_inj.1 hread.1).symm

/-! ### Columns -/

/-- The characters before the first space, and the text behind the spaces that follow them. -/
def takeWord (text : List Char) : List Char × List Char :=
  (text.takeWhile (· != ' '), (text.dropWhile (· != ' ')).dropWhile (· == ' '))

theorem toList_leftAligned (width : Nat) (text : String) :
    (leftAligned width text).toList = text.toList ++ List.replicate (width - text.length) ' ' := by
  rw [leftAligned, String.toList_append, toList_spaces]

/-- **A column is found again**, if what it shows has no space and something else than a space follows. -/
theorem takeWord_leftAligned {word : String} (hword : ' ' ∉ word.toList) (width : Nat) {rest : List Char}
    (hrest : rest.head? ≠ some ' ') :
    takeWord ((leftAligned width word).toList ++ ' ' :: rest) = (word.toList, rest) := by
  have hchars : ∀ c ∈ word.toList, (c != ' ') = true := by
    intro c hc
    exact bne_iff_ne.2 (ne_of_mem_of_not_mem hc hword)
  have hspaces : List.replicate (width - word.length) ' ' ++ ' ' :: rest =
      ' ' :: (List.replicate (width - word.length) ' ' ++ rest) := by
    rw [← List.singleton_append, ← List.append_assoc, ← List.replicate_succ', List.replicate_succ, List.cons_append]
  have hend : ∀ c ∈ rest.head?, (c == ' ') = false := by
    rintro c hc
    exact beq_eq_false_iff_ne.2 fun h => hrest (h ▸ hc)
  have hstop : ∀ more : List Char, ∀ c ∈ (' ' :: more).head?, (c != ' ') = false := by simp
  have hall : ∀ c ∈ List.replicate (width - word.length) ' ', (c == ' ') = true := by simp
  rw [takeWord, toList_leftAligned, List.append_assoc, hspaces, Lexeme.takeWhile_append_stop hchars (hstop _),
    Lexeme.dropWhile_append_stop hchars (hstop _), List.dropWhile_cons_of_pos (by rfl),
    Lexeme.dropWhile_append_stop hall hend]

/-! ### Printable text -/

/-- None of the characters that end a line is printable. -/
theorem isPrintable_eq_false_of_isLineEnd {c : Char} (h : isLineEnd c = true) : isPrintable c = false := by
  have hmem : c ∈ ['\n', '\r', '\x0b', '\x0c', '\x1c', '\x1d', '\x1e', '\u0085', '\u2028', '\u2029'] :=
    List.contains_iff_mem.1 h
  have hall : ['\n', '\r', '\x0b', '\x0c', '\x1c', '\x1d', '\x1e', '\u0085', '\u2028', '\u2029'].all
    (fun c => !isPrintable c) := by decide +kernel
  simpa using List.all_eq_true.1 hall c hmem

/-- What is printable ends no line. -/
theorem any_isLineEnd_of_isPrintable {text : List Char} (h : ∀ c ∈ text, isPrintable c = true) :
    text.any isLineEnd = false := by
  rw [List.any_eq_false]
  intro c hc hend
  have hprintable := h c hc
  rw [isPrintable_eq_false_of_isLineEnd hend] at hprintable
  cases hprintable

theorem isPrintable_leftAligned {text : String} (h : ∀ c ∈ text.toList, isPrintable c = true) (width : Nat) :
    ∀ c ∈ (leftAligned width text).toList, isPrintable c = true := by
  rw [toList_leftAligned]
  refine List.forall_mem_append.2 ⟨h, ?_⟩
  intro c hc
  rw [List.eq_of_mem_replicate hc]
  decide

theorem isPrintable_of_quote {quote : Char} (h : quote = '\'' ∨ quote = '"') : isPrintable quote = true := by
  obtain rfl | rfl := h
  all_goals decide

theorem isPrintable_quotedChar {quote : Char} (hquote : quote = '\'' ∨ quote = '"') (c : Char) :
    ∀ d ∈ (quotedChar quote c).toList, isPrintable d = true := by
  have hslash : isPrintable '\\' = true := by decide
  obtain ⟨hwritten, hc⟩ | ⟨letter, hwritten, hletter, -⟩ | ⟨hwritten, -, -, hc⟩ | hwritten := quotedChar_cases quote c
  · have hc : isPrintable c = true := by
      obtain rfl | rfl := hc
      · exact isPrintable_of_quote hquote
      · exact hslash
    rw [hwritten]
    exact List.forall_mem_cons.2 ⟨hslash, List.forall_mem_singleton.2 hc⟩
  · rw [hwritten]
    exact List.forall_mem_cons.2 ⟨hslash, List.forall_mem_singleton.2 hletter⟩
  · rw [hwritten]
    exact List.forall_mem_singleton.2 hc
  · obtain ⟨letter, width, hcode, hletter, -⟩ := codeEscape_cases c
    rw [hwritten, hcode]
    exact List.forall_mem_cons.2 ⟨hslash, List.forall_mem_cons.2 ⟨hletter, forall_mem_hexPadded (by decide) _ _⟩⟩

theorem isPrintable_quoted (text : String) : ∀ c ∈ (quoted text).toList, isPrintable c = true := by
  have hquote := delimiter_cases text.toList
  have hdelimiter := isPrintable_of_quote hquote
  rw [toList_quoted]
  refine List.forall_mem_cons.2 ⟨hdelimiter, List.forall_mem_append.2 ⟨?_, List.forall_mem_singleton.2 hdelimiter⟩⟩
  intro d hd
  obtain ⟨c, -, hd⟩ := List.mem_flatMap.1 hd
  exact isPrintable_quotedChar hquote c d hd

end Text

/-! ### Names of types -/

theorem TokenType.isPrintable_name (type : TokenType) : ∀ c ∈ type.name.toList, Text.isPrintable c = true := by
  apply List.all_eq_true.1
  cases type
  all_goals decide

theorem TokenType.space_not_mem_name (type : TokenType) : ' ' ∉ type.name.toList := by
  cases type
  all_goals decide

/-! ### Spans -/

namespace Token

/-- The four integers of a span: line and column, and line and column again. -/
def takeSpan (text : List Char) : (Int × Int) × (Int × Int) :=
  let (startLine, rest) := Text.takeInteger text
  let (startColumn, rest) := Text.takeInteger rest.tail
  let (finishLine, rest) := Text.takeInteger rest.tail
  let (finishColumn, _) := Text.takeInteger rest.tail
  ((startLine, startColumn), (finishLine, finishColumn))

/-- A span, whatever its integers are. -/
def plainSpan (t : Token) : String := Id.run (t.span (pure <| Text.integer ·))

/-- The line of a token, whatever its integers are. -/
def plainLine (t : Token) : String := Id.run (t.line (pure <| Text.integer ·))

theorem toList_plainSpan (t : Token) : t.plainSpan.toList = (Text.integer t.start.line).toList ++ ':' ::
    ((Text.integer t.start.column).toList ++ '-' :: ((Text.integer t.finish.line).toList ++ ':' ::
      ((Text.integer t.finish.column).toList ++ []))) := by
  simp [plainSpan, span]

/-- What holds of digits, signs and colons holds of all characters of a span. -/
theorem forall_mem_plainSpan {P : Char → Prop} (h : ∀ d < 10, P d.digitChar) (hminus : P '-') (hcolon : P ':')
    (t : Token) : ∀ c ∈ t.plainSpan.toList, P c := by
  have hinteger := Text.forall_mem_integer h hminus
  simp only [toList_plainSpan, List.forall_mem_append, List.forall_mem_cons]
  exact ⟨hinteger _, hcolon, hinteger _, hminus, hinteger _, hcolon, hinteger _, List.forall_mem_nil _⟩

theorem space_not_mem_plainSpan (t : Token) : ' ' ∉ t.plainSpan.toList := by
  have hother : ∀ c ∈ t.plainSpan.toList, c ≠ ' ' := forall_mem_plainSpan (by decide) (by decide) (by decide) t
  intro h
  exact hother ' ' h rfl

/-- **The integers of a span are found again**, though they may have signs of their own. -/
theorem takeSpan_plainSpan (t : Token) :
    takeSpan t.plainSpan.toList = ((t.start.line, t.start.column), (t.finish.line, t.finish.column)) := by
  have hcolon : ∀ rest : List Char, ∀ c ∈ (':' :: rest).head?, isDigit c = false := by simp [isDigit]
  have hhyphen : ∀ rest : List Char, ∀ c ∈ ('-' :: rest).head?, isDigit c = false := by simp [isDigit]
  rw [takeSpan, toList_plainSpan]
  simp only [Text.takeInteger_append _ (hcolon _), Text.takeInteger_append _ (hhyphen _), List.tail_cons,
    Text.takeInteger_append _ (show ∀ c ∈ ([] : List Char).head?, isDigit c = false by simp)]

/-! ### One token -/

/-- `t.Alike t'`: two tokens that differ in their cursors at most. -/
structure Alike (t t' : Token) : Prop where
  /-- They have one type. -/
  type : t.type = t'.type
  /-- They have one value. -/
  value : t.value = t'.value
  /-- They start on one line. -/
  startLine : t.start.line = t'.start.line
  /-- They start in one column. -/
  startColumn : t.start.column = t'.start.column
  /-- They end on one line. -/
  finishLine : t.finish.line = t'.finish.line
  /-- They end in one column. -/
  finishColumn : t.finish.column = t'.finish.column

/-- Such tokens have the same line, however integers are written. -/
theorem Alike.line_eq {m : Type → Type} [Monad m] (integer : Int → m String) {t t' : Token} (h : t.Alike t') :
    t.line integer = t'.line integer := by
  rw [line, line, span, span, h.type, h.value, h.startLine, h.startColumn, h.finishLine, h.finishColumn]

/-- The line of a token without the line feed. -/
def body (t : Token) : List Char :=
  (Text.leftAligned 15 t.plainSpan).toList ++ ' ' ::
    ((Text.leftAligned 13 t.type.name).toList ++ ' ' :: (Text.quoted t.value).toList)

theorem toList_plainLine (t : Token) : t.plainLine.toList = t.body ++ ['\n'] := by
  simp [plainLine, line, plainSpan, body]

/-- The second and third column of a line begin with something else than a space. -/
theorem takeWord_body (t : Token) : Text.takeWord t.body =
    (t.plainSpan.toList, (Text.leftAligned 13 t.type.name).toList ++ ' ' :: (Text.quoted t.value).toList) := by
  refine Text.takeWord_leftAligned t.space_not_mem_plainSpan 15 ?_
  rw [Text.toList_leftAligned]
  cases t.type
  all_goals simp [TokenType.name]

theorem takeWord_type (t : Token) :
    Text.takeWord ((Text.leftAligned 13 t.type.name).toList ++ ' ' :: (Text.quoted t.value).toList) =
      (t.type.name.toList, (Text.quoted t.value).toList) := by
  refine Text.takeWord_leftAligned ?_ 13 ?_
  · exact t.type.space_not_mem_name
  · rw [Text.toList_quoted]
    obtain hquote | hquote := Text.delimiter_cases t.value.toList
    all_goals simp [hquote]

/-- **A line tells everything of its token but the cursors.** -/
theorem plainLine_eq_iff (t t' : Token) : t.plainLine = t'.plainLine ↔ t.Alike t' := by
  constructor
  · intro h
    have hbody : t.body = t'.body := by
      have hline := congrArg String.toList h
      rw [toList_plainLine, toList_plainLine] at hline
      exact List.append_cancel_right hline
    have hwords := congrArg Text.takeWord hbody
    rw [takeWord_body, takeWord_body, Prod.mk.injEq] at hwords
    obtain ⟨hspan, hrest⟩ := hwords
    have hplaces := congrArg takeSpan hspan
    rw [takeSpan_plainSpan, takeSpan_plainSpan] at hplaces
    simp only [Prod.mk.injEq] at hplaces
    obtain ⟨⟨hstartLine, hstartColumn⟩, hfinishLine, hfinishColumn⟩ := hplaces
    have hcolumns := congrArg Text.takeWord hrest
    rw [takeWord_type, takeWord_type, Prod.mk.injEq] at hcolumns
    obtain ⟨hname, hquoted⟩ := hcolumns
    have htype : t.type = t'.type := TokenType.name_inj.1 (String.toList_inj.1 hname)
    have hvalue : t.value = t'.value := Text.eq_of_quoted_eq (String.toList_inj.1 hquoted)
    exact ⟨htype, hvalue, hstartLine, hstartColumn, hfinishLine, hfinishColumn⟩
  · intro h
    exact congrArg Id.run (h.line_eq _)

theorem isPrintable_body (t : Token) : ∀ c ∈ t.body, Text.isPrintable c = true := by
  have hspan : ∀ c ∈ t.plainSpan.toList, Text.isPrintable c = true :=
    forall_mem_plainSpan (by decide) (by decide) (by decide) t
  have hspace : Text.isPrintable ' ' = true := by decide
  simp only [body, List.forall_mem_append, List.forall_mem_cons]
  exact ⟨Text.isPrintable_leftAligned hspan 15, hspace, Text.isPrintable_leftAligned t.type.isPrintable_name 13, hspace,
    Text.isPrintable_quoted t.value⟩

/-- Nothing in a token's line ends a line but its last character. -/
theorem any_isLineEnd_body (t : Token) : t.body.any Text.isLineEnd = false :=
  Text.any_isLineEnd_of_isPrintable t.isPrintable_body

end Token

/-! ### The dump of tokens -/

/-- Tokens that agree but for their cursors have the same text dump, however integers are written. -/
theorem writeText_eq_of_alike {m : Type → Type} [Monad m] [LawfulMonad m] (integer : Int → m String)
    {ts ts' : List Token} (h : List.Forall₂ Token.Alike ts ts') : writeText integer ts = writeText integer ts' := by
  have hlines : ts.mapM (Token.line integer) = ts'.mapM (Token.line integer) := by
    induction h with
    | nil => rfl
    | cons halike _ ih => rw [List.mapM_cons, List.mapM_cons, halike.line_eq, ih]
  rw [writeText, writeText, hlines]

theorem textDump_eq_join (ts : List Token) : textDump ts = String.join (ts.map Token.plainLine) := by
  rw [textDump, writeText, Id.run_bind, List.idRun_mapM]
  rfl

theorem toList_textDump_cons (t : Token) (ts : List Token) :
    (textDump (t :: ts)).toList = t.body ++ '\n' :: (textDump ts).toList := by
  rw [textDump_eq_join, List.map_cons, String.join_cons, String.toList_append, Token.toList_plainLine,
    List.append_assoc, textDump_eq_join]
  rfl

theorem lines_textDump (ts : List Token) : Text.lines (textDump ts).toList = ts.map (·.plainLine.toList) := by
  have htext : (textDump ts).toList = (ts.map (·.plainLine.toList)).flatten := by
    simp [textDump_eq_join, String.toList_join, List.flatMap_def, Function.comp_def]
  rw [htext]
  apply Text.lines_flatten
  refine List.forall_mem_map.2 fun t _ => ?_
  exact ⟨t.body, t.toList_plainLine, t.any_isLineEnd_body⟩

theorem filter_isLineEnd_textDump (ts : List Token) :
    (textDump ts).toList.filter Text.isLineEnd = List.replicate ts.length '\n' := by
  induction ts with
  | nil => rfl
  | cons t ts ih =>
    have hbody : t.body.filter Text.isLineEnd = [] := by
      rw [List.filter_eq_nil_iff]
      exact List.any_eq_false.1 t.any_isLineEnd_body
    rw [toList_textDump_cons, List.filter_append, hbody, List.filter_cons_of_pos (by decide), ih]
    rfl

theorem textDump_eq_iff (ts ts' : List Token) : textDump ts = textDump ts' ↔ List.Forall₂ Token.Alike ts ts' := by
  constructor
  · intro h
    have hlines := congrArg (fun dump => Text.lines dump.toList) h
    simp only [lines_textDump] at hlines
    have halike : List.Forall₂ (· = ·) (ts.map (·.plainLine.toList)) (ts'.map (·.plainLine.toList)) := by
      rw [hlines]
      exact List.forall₂_refl _
    rw [List.forall₂_map_left_iff, List.forall₂_map_right_iff] at halike
    exact halike.imp fun t t' hline => (t.plainLine_eq_iff t').1 (String.toList_inj.1 hline)
  · intro h
    exact congrArg Id.run (writeText_eq_of_alike _ h)

end Stylesheet
