import Stylesheet.Proofs.TokenAt

/-!
# Reading a token character by character

`Input.readToken` finds the lexeme that is next, and then reads as many characters as it is long. A token can
also be read by someone who does not know how long it is, and only looks at a character or two before each
read. Every opening has a reader of that kind (`Opening.reader`). Some of them read a fixed number of characters,
the others go on in a loop (`Input.readLoop`) that may read nothing. Nothing keeps a reader from reading where no
character is left, and such a read moves the input as any other does.

What a loop reads is decided by the text ahead alone (`readLoop_eq`, `collect`), and what it collects is the run or
the body of a lexeme (`collect_while`, `collect_number`, `collect_block`, `collect_quoted`). So every reader makes the
token of the lexeme, and leaves the input behind the spelling of it (`reader_eq`). Main statement:
`readStepwise_eq`, the two ways to read a token agree, also in every read that they make.
-/

namespace Stylesheet

namespace Input

/-! ### Loops -/

/-- What a loop does about the next character. -/
inductive Step (σ : Type) where
  /-- It reads and collects it, and goes on. -/
  | keep (state : σ)
  /-- It reads a number of characters without collecting them, and ends. -/
  | close (count : Nat)
  /-- It ends. -/
  | leave
  deriving DecidableEq, Repr

theorem length_ahead_next {i : Input} {c : Char} (h : i.peek 0 = some c) :
    i.next.2.ahead.length < i.ahead.length := by
  have hahead : i.ahead[0]? = some c := h
  obtain ⟨hpos, -⟩ := List.getElem?_eq_some_iff.1 hahead
  rw [ahead_next, List.length_tail]
  omega

/-- Reads characters in a loop as long as there are any. What is done about one may depend on those before it, by
a state, and on the one behind it. -/
def readLoop {σ : Type} (step : σ → Char → Option Char → Step σ) (state : σ) (i : Input) : List Char × Input :=
  match h : i.peek 0 with
  | none => ([], i)
  | some c =>
    match step state c (i.peek 1) with
    | .keep state' =>
      have := length_ahead_next h
      let (value, rest) := i.next.2.readLoop step state'
      (i.next.1.toList ++ value, rest)
    | .close count => ([], i.skip count)
    | .leave => ([], i)
termination_by i.ahead.length

/-- What a loop collects of a text, and how many characters it reads. -/
def collect {σ : Type} (step : σ → Char → Option Char → Step σ) (state : σ) : List Char → List Char × Nat
  | [] => ([], 0)
  | c :: cs =>
    match step state c cs.head? with
    | .keep state' =>
      let (value, count) := collect step state' cs
      (c :: value, count + 1)
    | .close count => ([], count)
    | .leave => ([], 0)

variable {σ : Type} {step : σ → Char → Option Char → Step σ} {state state' : σ} {c : Char} {cs : List Char} {n : Nat}

theorem collect_keep (h : step state c cs.head? = .keep state') :
    collect step state (c :: cs) = (c :: (collect step state' cs).1, (collect step state' cs).2 + 1) := by
  rw [collect, h]

theorem collect_close (h : step state c cs.head? = .close n) : collect step state (c :: cs) = ([], n) := by
  rw [collect, h]

theorem collect_leave (h : step state c cs.head? = .leave) : collect step state (c :: cs) = ([], 0) := by
  rw [collect, h]

theorem next_of_ahead {i : Input} (hi : i.ahead = c :: cs) : i.next.1 = some c ∧ i.next.2.ahead = cs :=
  ⟨congrArg List.head? hi, congrArg List.tail hi⟩

theorem exists_ahead_of_peek {i : Input} (h : i.peek 0 = some c) : ∃ cs, i.ahead = c :: cs ∧ i.peek 1 = cs.head? := by
  obtain ⟨cs, hi⟩ := List.head?_eq_some_iff.1 (List.head?_eq_getElem?.trans h)
  refine ⟨cs, hi, ?_⟩
  rw [List.head?_eq_getElem?]
  exact congrArg (·[1]?) hi

/-- **A loop reads what its text ahead says**, by single reads. -/
theorem readLoop_eq (step : σ → Char → Option Char → Step σ) (state : σ) (i : Input) :
    i.readLoop step state = ((collect step state i.ahead).1, i.skip (collect step state i.ahead).2) := by
  fun_induction readLoop step state i with
  | case1 state i h =>
    have hi : i.ahead = [] := List.head?_eq_none_iff.1 (List.head?_eq_getElem?.trans h)
    rw [hi]
    rfl
  | case2 state i c h state' hstep _ value rest hloop ih =>
    obtain ⟨cs, hi, hnext⟩ := exists_ahead_of_peek h
    obtain ⟨hread, hmore⟩ := next_of_ahead hi
    rw [hnext] at hstep
    rw [hloop, hmore, Prod.mk.injEq] at ih
    rw [hi, collect_keep hstep, hread, ih.1, ih.2]
    rfl
  | case3 state i c h count hstep =>
    obtain ⟨cs, hi, hnext⟩ := exists_ahead_of_peek h
    rw [hi, collect_close (hnext ▸ hstep)]
  | case4 state i c h hstep =>
    obtain ⟨cs, hi, hnext⟩ := exists_ahead_of_peek h
    rw [hi, collect_leave (hnext ▸ hstep)]
    rfl

/-! ### What the loops collect -/

/-- Collects the characters of a class. -/
def whileStep (p : Char → Bool) : Unit → Char → Option Char → Step Unit :=
  fun _ c _ => if p c then .keep () else .leave

/-- Collects digits and one point; the state tells whether there was one. -/
def numberStep : Bool → Char → Option Char → Step Bool :=
  fun point c _ =>
    if c = '.' then if point then .leave else .keep true
    else if isDigit c then .keep point else .leave

/-- Collects what is in a block comment, and reads the closer. -/
def blockStep : Unit → Char → Option Char → Step Unit :=
  fun _ c next => if c = '*' ∧ next = some '/' then .close 2 else .keep ()

/-- Collects what is between quotes, and reads the second one; the state tells whether the character is escaped. -/
def quotedStep (quote : Char) : Bool → Char → Option Char → Step Bool :=
  fun escaped c _ =>
    if escaped then .keep false
    else if c = '\\' then .keep true
    else if c = quote then .close 1
    else .keep false

theorem collect_while (p : Char → Bool) (text : List Char) :
    collect (whileStep p) () text = (text.takeWhile p, (text.takeWhile p).length) := by
  induction text with
  | nil => rfl
  | cons c cs ih =>
    cases hc : p c with
    | true =>
      have hstep : whileStep p () c cs.head? = .keep () := by rw [whileStep, if_pos hc]
      rw [collect_keep hstep, ih, List.takeWhile_cons_of_pos hc, List.length_cons]
    | false =>
      have hc : ¬ p c = true := by rw [hc]; exact Bool.false_ne_true
      have hstep : whileStep p () c cs.head? = .leave := by rw [whileStep, if_neg hc]
      rw [collect_leave hstep, List.takeWhile_cons_of_neg hc, List.length_nil]

theorem collect_number_point (text : List Char) :
    collect numberStep true text = (text.takeWhile isDigit, (text.takeWhile isDigit).length) := by
  induction text with
  | nil => rfl
  | cons c cs ih =>
    by_cases hc : isDigit c = true
    · have hpoint : c ≠ '.' := ne_of_class hc rfl
      have hstep : numberStep true c cs.head? = .keep true := by rw [numberStep, if_neg hpoint, if_pos hc]
      rw [collect_keep hstep, ih, List.takeWhile_cons_of_pos hc, List.length_cons]
    · have hstep : numberStep true c cs.head? = .leave := by
        rw [numberStep, if_neg hc]
        exact ite_self _
      rw [collect_leave hstep, List.takeWhile_cons_of_neg hc, List.length_nil]

theorem collect_number (text : List Char) :
    collect numberStep false text = (Lexeme.numberRun text, (Lexeme.numberRun text).length) := by
  induction text with
  | nil => rfl
  | cons c cs ih =>
    by_cases hpoint : c = '.'
    · subst hpoint
      have hrun : Lexeme.numberRun ('.' :: cs) = '.' :: cs.takeWhile isDigit := rfl
      have hstep : numberStep false '.' cs.head? = .keep true := rfl
      rw [collect_keep hstep, collect_number_point, hrun, List.length_cons]
    by_cases hc : isDigit c = true
    · have hrun : Lexeme.numberRun (c :: cs) = c :: Lexeme.numberRun cs := by
        rw [Lexeme.numberRun, List.takeWhile_cons_of_pos hc, List.dropWhile_cons_of_pos hc]
        rfl
      have hstep : numberStep false c cs.head? = .keep false := by rw [numberStep, if_neg hpoint, if_pos hc]
      rw [collect_keep hstep, ih, hrun, List.length_cons]
    · have hrun : Lexeme.numberRun (c :: cs) = [] := by
        rw [Lexeme.numberRun, List.takeWhile_cons_of_neg hc, List.dropWhile_cons_of_neg hc]
        simp [hpoint]
      have hstep : numberStep false c cs.head? = .leave := by rw [numberStep, if_neg hpoint, if_neg hc]
      rw [collect_leave hstep, hrun, List.length_nil]

theorem collect_block (text : List Char) : collect blockStep () text = ((Lexeme.blockBody text).1,
    ((Lexeme.blockBody text).1 ++ if (Lexeme.blockBody text).2 then ['*', '/'] else []).length) := by
  fun_induction Lexeme.blockBody text with
  | case1 => rfl
  | case2 rest => rfl
  | case3 c cs hopen body closed h ih =>
    have hstep : blockStep () c cs.head? = .keep () := by
      refine if_neg ?_
      rintro ⟨rfl, hslash⟩
      obtain ⟨rest, rfl⟩ := List.head?_eq_some_iff.1 hslash
      exact hopen rest rfl rfl
    rw [h] at ih
    rw [collect_keep hstep, ih]
    rfl

theorem collect_quoted {quote : Char} (hquote : quote ≠ '\\') (text : List Char) :
    collect (quotedStep quote) false text = ((Lexeme.quotedBody quote text).1,
      ((Lexeme.quotedBody quote text).1 ++ if (Lexeme.quotedBody quote text).2 then [quote] else []).length) := by
  fun_induction Lexeme.quotedBody quote text with
  | case1 => rfl
  | case2 d cs body closed h ih =>
    have hslash : quotedStep quote false '\\' (d :: cs).head? = .keep true := rfl
    have hescaped : quotedStep quote true d cs.head? = .keep false := rfl
    rw [h] at ih
    rw [collect_keep hslash, collect_keep hescaped, ih]
    rfl
  | case3 cs hescape =>
    have hstep : quotedStep quote false quote cs.head? = .close 1 := by simp [quotedStep, hquote]
    rw [collect_close hstep]
    rfl
  | case4 c cs hescape hc body closed h ih =>
    rw [h] at ih
    by_cases hslash : c = '\\'
    · -- a backslash that nothing follows
      subst hslash
      have hnil : cs = [] := by
        cases cs with
        | nil => rfl
        | cons d ds => exact absurd rfl (hescape d ds rfl)
      subst hnil
      obtain ⟨rfl, rfl⟩ := Prod.mk.inj h
      rfl
    · have hstep : quotedStep quote false c cs.head? = .keep false := by
        simp [quotedStep, hslash, hc]
      rw [collect_keep hstep, ih]
      rfl

/-! ### Readers -/

/-- Reads characters of a class. -/
def readWhile (p : Char → Bool) (i : Input) : List Char × Input := i.readLoop (whileStep p) ()

/-- Reads and collects a number of characters. -/
def readCount : Nat → Input → List Char × Input
  | 0, i => ([], i)
  | n + 1, i =>
    let (value, rest) := readCount n i.next.2
    (i.next.1.toList ++ value, rest)

/-- Makes a token of what was collected since an input. -/
def emit (i : Input) (type : TokenType) (read : List Char × Input) : Token × Input :=
  (⟨type, String.ofList read.1, i.position, read.2.position⟩, read.2)

/-- Reads a comment: two characters, the second of which tells its kind, and then its body. -/
def readComment (i : Input) : Token × Input :=
  let (second, body) := i.next.2.next
  i.emit .comment (if second = some '/' then body.readWhile (!isLineBreak ·) else body.readLoop blockStep ())

/-- Looks for hexadecimal digits behind the next character, one after the other, and counts them up to seven. -/
def countHexDigits (i : Input) (count : Nat) : Nat :=
  if count ≤ 6 ∧ (i.peek (.ofNat (count + 1))).any isHexDigit then i.countHexDigits (count + 1) else count
termination_by 7 - count

/-- How many digits the colour behind a hash has; 0 if there is none. -/
def colorLength (i : Input) : Nat :=
  let count := i.countHexDigits 0
  if count = 3 ∨ count = 6 then count else 0

/-- Reads a hash: a colour if digits for it were seen, and otherwise the hash alone. -/
def readHash (i : Input) : Token × Input :=
  if i.colorLength = 0 then i.emit .punctuation (i.readCount 1)
  else i.emit .colorHex (i.next.2.readCount i.colorLength)

/-- Reads an operator: a run of the next character if it repeats, and otherwise that character alone. -/
def readOperator (i : Input) : Token × Input :=
  i.emit .operator ((i.peek 0).elim (i.readCount 1) fun c =>
    if isRepeatable c then i.readWhile (· == c) else i.readCount 1)

/-- Reads a quote, and then up to the next one that is not escaped. -/
def readQuoted (type : TokenType) (i : Input) : Token × Input :=
  let (quote, body) := i.next
  i.emit type (quote.elim ([], body) fun q => body.readLoop (quotedStep q) false)

/-- Reads a sign, and then the name behind it. -/
def readSigil (type : TokenType) (i : Input) : Token × Input := i.emit type (i.next.2.readWhile isIdentChar)

theorem readWhile_eq (p : Char → Bool) (i : Input) :
    i.readWhile p = (i.ahead.takeWhile p, i.skip (i.ahead.takeWhile p).length) := by
  rw [readWhile, readLoop_eq, collect_while]

theorem readCount_eq (n : Nat) (i : Input) : i.readCount n = (i.ahead.take n, i.skip n) := by
  induction n generalizing i with
  | zero => rfl
  | succ n ih =>
    rw [readCount, ih, ahead_next]
    cases hi : i.ahead with
    | nil => simp [next, skip, hi]
    | cons c cs => simp [next, skip, hi]

/-- A reader that counts on more characters than there are reads behind the end, and the input records it. -/
example : ((ofSource "#a").next.2.readCount 3).2.reads = [none, none, some 'a', some '#'] := by decide

/-- Counting stops where the run does, or at seven. -/
theorem countHexDigits_eq (i : Input) {count : Nat} (h : count ≤ 7) :
    i.countHexDigits count = count + (((i.ahead.tail.drop count).take (7 - count)).takeWhile isHexDigit).length := by
  fun_induction countHexDigits i count with
  | case1 count hmore ih =>
    obtain ⟨hcount, hdigit⟩ := hmore
    obtain ⟨c, hc, hhex⟩ := (Option.any_eq_true _ _).1 hdigit
    have hdrop : i.ahead.tail.drop count = c :: i.ahead.tail.drop (count + 1) :=
      drop_of_getElem? (List.getElem?_tail.trans hc)
    have hroom : 7 - count = 7 - (count + 1) + 1 := by omega
    rw [ih (by omega), hdrop, hroom, List.take_succ_cons, List.takeWhile_cons_of_pos hhex, List.length_cons]
    omega
  | case2 count hstop =>
    have hnone : ((i.ahead.tail.drop count).take (7 - count)).takeWhile isHexDigit = [] := by
      rcases Nat.lt_or_eq_of_le h with hlt | rfl
      · have hhead : ((i.ahead.tail.drop count).take (7 - count)).head? = i.peek (.ofNat (count + 1)) := by
          rw [List.head?_take, if_neg (by omega), List.head?_drop, List.getElem?_tail]
          rfl
        cases hcs : (i.ahead.tail.drop count).take (7 - count) with
        | nil => rfl
        | cons c cs =>
          rw [hcs, List.head?_cons] at hhead
          rw [List.takeWhile_cons_of_neg]
          intro hc
          exact hstop ⟨by omega, by rw [← hhead]; exact hc⟩
      · rfl
    rw [hnone, List.length_nil, Nat.add_zero]

/-- There is a colour if digits for one were counted, and it has as many. -/
theorem colorDigits?_cases {i : Input} {c : Char} {cs : List Char} (hi : i.ahead = c :: cs) :
    (i.colorLength = 0 ∧ Lexeme.colorDigits? cs = none) ∨
      (i.colorLength ≠ 0 ∧ Lexeme.colorDigits? cs = some (cs.take i.colorLength) ∧
        (cs.take i.colorLength).length = i.colorLength) := by
  have hcount := i.countHexDigits_eq (Nat.zero_le 7)
  rw [hi, Nat.zero_add, Nat.sub_zero, List.drop_zero, List.tail_cons] at hcount
  have hrun : cs.take ((cs.take 7).takeWhile isHexDigit).length = (cs.take 7).takeWhile isHexDigit :=
    (List.prefix_iff_eq_take.1 ((List.takeWhile_prefix _).trans (List.take_prefix 7 cs))).symm
  rw [Lexeme.colorDigits?, colorLength, hcount]
  by_cases h : ((cs.take 7).takeWhile isHexDigit).length = 3 ∨ ((cs.take 7).takeWhile isHexDigit).length = 6
  · rw [if_pos h, if_pos h, hrun]
    exact .inr ⟨by omega, rfl, rfl⟩
  · rw [if_neg h, if_neg h]
    exact .inl ⟨rfl, rfl⟩

end Input

/-- The reader for what opens in a way. -/
def Opening.reader (o : Opening) (i : Input) : Token × Input :=
  match o with
  | .blank => i.emit .space (i.readWhile isBlank)
  | .lineComment => i.readComment
  | .blockComment => i.readComment
  | .number => i.emit .number (i.readLoop Input.numberStep false)
  | .hash => i.readHash
  | .punctuation => i.emit .punctuation (i.readCount 1)
  | .identifier => i.emit .identifier (i.readWhile isIdentChar)
  | .operator => i.readOperator
  | .quoted q => i.readQuoted q.type
  | .atRule => i.readSigil .atRule
  | .variableName => i.readSigil .variableName

namespace Input

/-- Reads a token character by character. The input is given back as the reads have left it, also where there is no
token, or an error. -/
def readStepwise (i : Input) : Except LexError (Option Token) × Input :=
  match i.peek 0 with
  | none => (.ok none, i)
  | some c =>
    match Opening.of? c (i.peek 1) with
    | some o =>
      let (t, rest) := o.reader i
      (.ok (some t), rest)
    | none => (.error (i.errorAt (.unhandled c)), i)

/-- What the outcome of a read answers, and the input it leaves: it stays where it was unless a token was read. -/
def Read.answer (i : Input) : Read → Except LexError (Option Token) × Input
  | .finished => (.ok none, i)
  | .token t rest => (.ok (some t), rest)
  | .failed e => (.error e, i)

/-! ### Readers read lexemes -/

/-- What the reader of a lexeme is to do: collect its value, and read the characters of its spelling. -/
def emitLexeme (i : Input) (l : Lexeme) : Token × Input := i.emit l.type (l.value, i.skip l.spelling.length)

theorem emitLexeme_eq {i : Input} {l : Lexeme} (h : l.spelling <+: i.ahead) :
    i.emitLexeme l = (l.toToken i.position, i.skip l.spelling.length) := by
  obtain ⟨more, hmore⟩ := h
  rw [emitLexeme, emit, position_skip i hmore.symm, Lexeme.toToken]

section

variable {i : Input} {c : Char} {cs : List Char}

theorem readComment_line (hi : i.ahead = c :: '/' :: cs) :
    i.readComment = i.emitLexeme (.lineComment (cs.takeWhile (!isLineBreak ·))) := by
  obtain ⟨hsecond, hbody⟩ := next_of_ahead (next_of_ahead hi).2
  rw [readComment]
  simp only [hsecond, if_true, readWhile_eq, hbody]
  rfl

theorem readComment_block (hi : i.ahead = c :: '*' :: cs) :
    i.readComment = i.emitLexeme (.blockComment (Lexeme.blockBody cs).1 (Lexeme.blockBody cs).2) := by
  obtain ⟨hsecond, hbody⟩ := next_of_ahead (next_of_ahead hi).2
  have hstar : some '*' ≠ some '/' := by decide
  rw [readComment]
  simp only [hsecond, if_neg hstar, readLoop_eq, hbody, collect_block]
  rfl

theorem readNumber_eq (i : Input) :
    i.emit .number (i.readLoop numberStep false) = i.emitLexeme (.number (Lexeme.numberRun i.ahead)) := by
  rw [readLoop_eq, collect_number]
  rfl

theorem readHash_eq (hi : i.ahead = c :: cs) : i.readHash = i.emitLexeme (Opening.hash.lexeme c cs) := by
  obtain ⟨-, hdigits⟩ := next_of_ahead hi
  rcases colorDigits?_cases hi with ⟨hzero, hnone⟩ | ⟨hpos, hsome, hlength⟩
  · rw [readHash, if_pos hzero, Opening.lexeme, hnone, readCount_eq, hi]
    rfl
  · have hskip : i.next.2.skip i.colorLength = i.skip (Lexeme.color (cs.take i.colorLength)).spelling.length := by
      rw [Lexeme.spelling, List.length_cons, hlength]
      rfl
    rw [readHash, if_neg hpos, Opening.lexeme, hsome, readCount_eq, hdigits, hskip]
    rfl

theorem readOperator_eq (hi : i.ahead = c :: cs) : i.readOperator = i.emitLexeme (Opening.operator.lexeme c cs) := by
  have hpeek : i.peek 0 = some c := congrArg (·[0]?) hi
  rw [readOperator, Opening.lexeme, hpeek, Option.elim_some]
  by_cases h : isRepeatable c = true
  · rw [if_pos h, if_pos h, readWhile_eq, hi, List.takeWhile_cons_of_pos (p := (· == c)) (beq_self_eq_true c)]
    rfl
  · rw [if_neg h, if_neg h, readCount_eq, hi]
    rfl

theorem readQuoted_eq {q : Quote} (hi : i.ahead = q.char :: cs) :
    i.readQuoted q.type = i.emitLexeme (.quoted q (Lexeme.quotedBody q.char cs).1 (Lexeme.quotedBody q.char cs).2) := by
  obtain ⟨hquote, hbody⟩ := next_of_ahead hi
  rw [readQuoted]
  simp only [hquote, Option.elim_some, readLoop_eq, hbody, collect_quoted q.char_ne_backslash]
  rfl

theorem readSigil_eq (type : TokenType) (hi : i.ahead = c :: cs) :
    i.readSigil type = i.emit type (cs.takeWhile isIdentChar, i.skip ((cs.takeWhile isIdentChar).length + 1)) := by
  rw [readSigil, readWhile_eq, (next_of_ahead hi).2]
  rfl

/-- **Every reader reads the lexeme of its opening.** -/
theorem reader_eq {o : Opening} (hi : i.ahead = c :: cs) (h : o.fits c cs.head?) :
    o.reader i = i.emitLexeme (o.lexeme c cs) := by
  cases o with
  | blank =>
    have hc : isBlank c = true := h
    rw [Opening.reader, readWhile_eq, hi, List.takeWhile_cons_of_pos hc]
    rfl
  | lineComment =>
    obtain ⟨-, hs⟩ : c = '/' ∧ cs.head? = some '/' := by simpa [Opening.fits] using h
    obtain ⟨rest, rfl⟩ := List.head?_eq_some_iff.1 hs
    exact readComment_line hi
  | blockComment =>
    obtain ⟨-, hs⟩ : c = '/' ∧ cs.head? = some '*' := by simpa [Opening.fits] using h
    obtain ⟨rest, rfl⟩ := List.head?_eq_some_iff.1 hs
    exact readComment_block hi
  | number =>
    rw [Opening.reader, readNumber_eq, hi]
    rfl
  | hash => exact readHash_eq hi
  | punctuation =>
    rw [Opening.reader, readCount_eq, hi]
    rfl
  | identifier =>
    have hstart : isIdentStart c = true := h
    have hc : isIdentChar c = true := by simp [isIdentChar, hstart]
    rw [Opening.reader, readWhile_eq, hi, List.takeWhile_cons_of_pos hc]
    rfl
  | operator => exact readOperator_eq hi
  | quoted q =>
    obtain rfl : c = q.char := by simpa [Opening.fits] using h
    exact readQuoted_eq hi
  | atRule => exact readSigil_eq .atRule hi
  | variableName => exact readSigil_eq .variableName hi

end

/-- **A token may be read character by character**: with the same outcome, and leaving the same input, which also
records the same reads. -/
theorem readStepwise_eq (i : Input) : i.readStepwise = i.readToken.answer i := by
  rw [readStepwise, readToken]
  cases hi : i.ahead with
  | nil =>
    have hpeek : i.peek 0 = none := congrArg (·[0]?) hi
    rw [hpeek]
    rfl
  | cons c cs =>
    have hpeek : i.peek 0 = some c := congrArg (·[0]?) hi
    have hnext : i.peek 1 = cs.head? := (congrArg (·[1]?) hi).trans List.head?_eq_getElem?.symm
    rw [hpeek, hnext]
    simp only
    rw [Lexeme.first?]
    cases ho : Opening.of? c cs.head? with
    | none => rfl
    | some o =>
      have hfits := Opening.fits_of_of? ho
      have hprefix := Opening.spelling_lexeme_isPrefix hfits
      simp only [Option.map_some, reader_eq hi hfits]
      rw [emitLexeme_eq (hi ▸ hprefix)]
      rfl

end Input

end Stylesheet
