import Stylesheet.Proofs.CharClass
import Stylesheet.Proofs.Reading
import Mathlib.Data.List.TakeWhile

/-!
# The grammar of lexemes

`Lexeme.WellFormed` says which lexemes there are, one class of spellings for each kind, and
`Lexeme.Ends` what may come behind one without being read as part of it. Neither mentions the
order in which the reader tries the kinds. The reader finds every well-formed lexeme again, in
front of any text that ends it (`first?_append`): its first two characters decide its kind
(`Opening.of?`), and its end is found where the grammar puts it.
-/

namespace Stylesheet

theorem Quote.char_ne_backslash (q : Quote) : q.char ≠ '\\' := by cases q <;> decide

namespace Lexeme

/-! ### The grammar -/

/-- The bodies of closed strings: characters other than the backslash and the quote, and
backslashes with the character behind each. -/
inductive QuotedText (quote : Char) : List Char → Prop where
  /-- The empty body. -/
  | nil : QuotedText quote []
  /-- A character that stands for itself. -/
  | char {c : Char} {body : List Char} : c ≠ '\\' → c ≠ quote → QuotedText quote body → QuotedText quote (c :: body)
  /-- A backslash and any character. -/
  | escape {c : Char} {body : List Char} : QuotedText quote body → QuotedText quote ('\\' :: c :: body)

/-- Digits, digits with a point behind or among them, or a point with digits behind it. -/
def IsNumber (text : List Char) : Prop :=
  ∃ a b : List Char, (∀ c ∈ a, isDigit c = true) ∧ (∀ c ∈ b, isDigit c = true) ∧
    (a ≠ [] ∧ text = a ∨ a ≠ [] ∧ text = a ++ '.' :: b ∨ b ≠ [] ∧ text = '.' :: b)

/-- One operator character that does not repeat, or one that does, once or more. -/
def IsOperator (text : List Char) : Prop :=
  ∃ c, isOperator c = true ∧ (isRepeatable c = false ∧ text = [c] ∨
    isRepeatable c = true ∧ ∃ n, text = List.replicate (n + 1) c)

/-- The lexemes of a stylesheet. -/
def WellFormed : Lexeme → Prop
  | .space run => run ≠ [] ∧ ∀ c ∈ run, isBlank c = true
  | .lineComment body => '\n' ∉ body
  | .blockComment body _ => ¬ ['*', '/'] <:+: body
  | .number text => IsNumber text
  | .color digits => (digits.length = 3 ∨ digits.length = 6) ∧ ∀ c ∈ digits, isHexDigit c = true
  | .punctuation c => isPunctuation c = true
  | .operator text => IsOperator text
  | .identifier name => ∃ c cs, name = c :: cs ∧ isIdentStart c = true ∧ ∀ d ∈ cs, isIdentChar d = true
  | .quoted q body closed =>
    QuotedText q.char body ∨ closed = false ∧ ∃ start, QuotedText q.char start ∧ body = start ++ ['\\']
  | .atRule name => ∀ c ∈ name, isIdentChar c = true
  | .variableName name => ∀ c ∈ name, isIdentChar c = true

/-- Whether a lexeme ends where `rest` begins. -/
def Ends (l : Lexeme) (rest : List Char) : Prop :=
  match l with
  | .space _ => ∀ c ∈ rest.head?, isBlank c = false
  | .lineComment _ => ∀ c ∈ rest.head?, c = '\n'
  | .blockComment _ closed => closed = false → rest = []
  | .number text => ∀ c ∈ rest.head?, isDigit c = false ∧ (c = '.' → '.' ∈ text)
  | .color _ => ∀ c ∈ rest.head?, isHexDigit c = false
  | .punctuation c => (c = '.' → ∀ d ∈ rest.head?, isDigit d = false) ∧ (c = '#' → colorDigits? rest = none)
  | .operator text =>
    (∀ c ∈ rest.head?, isRepeatable c = true → c ∉ text) ∧ (text = ['/'] → ∀ c ∈ rest.head?, c ≠ '/' ∧ c ≠ '*')
  | .identifier _ => ∀ c ∈ rest.head?, isIdentChar c = false
  | .quoted _ _ closed => closed = false → rest = []
  | .atRule _ => ∀ c ∈ rest.head?, isIdentChar c = false
  | .variableName _ => ∀ c ∈ rest.head?, isIdentChar c = false

/-! ### Where runs end -/

/-- A run of a class ends before a character that is not in it. -/
theorem takeWhile_append_stop {p : Char → Bool} {run rest : List Char} (h : ∀ c ∈ run, p c = true)
    (hr : ∀ c ∈ rest.head?, p c = false) : (run ++ rest).takeWhile p = run := by
  have hstop : rest.takeWhile p = [] := by
    cases rest with
    | nil => rfl
    | cons c cs => rw [List.takeWhile_cons_of_neg (ne_true_of_eq_false (hr c rfl))]
  rw [List.takeWhile_append_of_pos h, hstop, List.append_nil]

theorem dropWhile_append_stop {p : Char → Bool} {run rest : List Char} (h : ∀ c ∈ run, p c = true)
    (hr : ∀ c ∈ rest.head?, p c = false) : (run ++ rest).dropWhile p = rest := by
  rw [List.dropWhile_append_of_pos h]
  cases rest with
  | nil => rfl
  | cons c cs => rw [List.dropWhile_cons_of_neg (ne_true_of_eq_false (hr c rfl))]

theorem numberRun_point {a b rest : List Char} (ha : ∀ c ∈ a, isDigit c = true) (hb : ∀ c ∈ b, isDigit c = true)
    (hr : ∀ c ∈ rest.head?, isDigit c = false) : numberRun (a ++ '.' :: (b ++ rest)) = a ++ '.' :: b := by
  have hpoint : ∀ c ∈ ('.' :: (b ++ rest)).head?, isDigit c = false := by rintro c ⟨⟩; rfl
  rw [numberRun, takeWhile_append_stop ha hpoint, dropWhile_append_stop ha hpoint]
  simp only
  rw [takeWhile_append_stop hb hr]

theorem numberRun_digits {a rest : List Char} (ha : ∀ c ∈ a, isDigit c = true)
    (hr : ∀ c ∈ rest.head?, isDigit c = false ∧ c ≠ '.') : numberRun (a ++ rest) = a := by
  have hdigit : ∀ c ∈ rest.head?, isDigit c = false := fun c hc => (hr c hc).1
  rw [numberRun, takeWhile_append_stop ha hdigit, dropWhile_append_stop ha hdigit]
  split
  · exact absurd rfl (hr '.' rfl).2
  · exact List.append_nil a

/-- The reader finds the end of a number. -/
theorem numberRun_append {text rest : List Char} (h : IsNumber text)
    (hr : ∀ c ∈ rest.head?, isDigit c = false ∧ (c = '.' → '.' ∈ text)) : numberRun (text ++ rest) = text := by
  obtain ⟨a, b, ha, hb, ⟨-, rfl⟩ | ⟨-, rfl⟩ | ⟨-, rfl⟩⟩ := h
  · refine numberRun_digits ha fun c hc => ⟨(hr c hc).1, fun hpoint => ?_⟩
    exact absurd (ha '.' ((hr c hc).2 hpoint)) (by decide)
  · rw [List.append_assoc, List.cons_append]
    exact numberRun_point ha hb fun c hc => (hr c hc).1
  · exact numberRun_point (List.forall_mem_nil _) hb fun c hc => (hr c hc).1

/-- The reader finds the end of a colour. -/
theorem colorDigits?_append {digits rest : List Char} (hl : digits.length = 3 ∨ digits.length = 6)
    (h : ∀ c ∈ digits, isHexDigit c = true) (hr : ∀ c ∈ rest.head?, isHexDigit c = false) :
    colorDigits? (digits ++ rest) = some digits := by
  have htake : (digits ++ rest).take 7 = digits ++ rest.take (7 - digits.length) := by
    rw [List.take_append, List.take_of_length_le (by omega)]
  have hrun : ((digits ++ rest).take 7).takeWhile isHexDigit = digits := by
    rw [htake]
    refine takeWhile_append_stop h fun c hc => hr c ?_
    rwa [List.head?_take, if_neg (by omega)] at hc
  rw [colorDigits?, hrun, if_pos hl]

/-- The reader finds the end of a block comment. -/
theorem blockBody_append {body : List Char} (rest : List Char) (h : ¬ ['*', '/'] <:+: body) :
    blockBody (body ++ '*' :: '/' :: rest) = (body, true) := by
  induction body with
  | nil => rfl
  | cons c body ih =>
    have hbody : ¬ ['*', '/'] <:+: body := fun hin => h (hin.trans (List.suffix_cons c body).isInfix)
    rw [List.cons_append, blockBody, ih hbody]
    rintro more rfl hmore
    cases body with
    | nil => cases hmore
    | cons d body =>
      obtain ⟨rfl, -⟩ := List.cons.inj hmore
      exact h (List.prefix_append ['*', '/'] body).isInfix

/-- A block comment that nothing closes takes all the text. -/
theorem blockBody_open {body : List Char} (h : ¬ ['*', '/'] <:+: body) : blockBody body = (body, false) := by
  induction body with
  | nil => rfl
  | cons c body ih =>
    have hbody : ¬ ['*', '/'] <:+: body := fun hin => h (hin.trans (List.suffix_cons c body).isInfix)
    rw [blockBody, ih hbody]
    rintro more rfl rfl
    exact h (List.prefix_append ['*', '/'] more).isInfix

theorem quotedBody_other {quote c : Char} {cs : List Char} (hc : c ≠ '\\') :
    quotedBody quote (c :: cs) =
      if c = quote then ([], true) else (c :: (quotedBody quote cs).1, (quotedBody quote cs).2) := by
  rw [quotedBody]
  rintro d ds rfl
  exact absurd rfl hc

/-- The body of a string goes on with what may follow it, up to a quote or to the end. -/
theorem quotedBody_append {quote : Char} {body rest more : List Char} {closed : Bool} (h : QuotedText quote body)
    (hr : quotedBody quote rest = (more, closed)) : quotedBody quote (body ++ rest) = (body ++ more, closed) := by
  induction h with
  | nil => exact hr
  | char hesc hq _ ih => rw [List.cons_append, quotedBody_other hesc, if_neg hq, ih]; rfl
  | escape _ ih => rw [List.cons_append, List.cons_append, quotedBody, ih]; rfl

end Lexeme

namespace Opening

/-! ### What the first two characters decide -/

variable {c : Char} {next : Option Char}

theorem of?_blank (h : isBlank c = true) : of? c next = some .blank := by
  simp [of?, all, fits, h]

theorem of?_digit (h : isDigit c = true) : of? c next = some .number := by
  have hblank : isBlank c = false := isBlank_eq_false h rfl rfl rfl
  have hslash : c ≠ '/' := ne_of_class h rfl
  simp [of?, all, fits, h, hblank, hslash]

theorem of?_point {d : Char} (h : isDigit d = true) : of? '.' (some d) = some .number := by
  have hblank : isBlank '.' = false := rfl
  simp [of?, all, fits, hblank, h]

theorem of?_punctuation (h : isPunctuation c = true) (hhash : c ≠ '#')
    (hpoint : c = '.' → ∀ d ∈ next, isDigit d = false) : of? c next = some .punctuation := by
  by_cases hc : c = '.'
  · -- the only punctuation that what follows it can make something else
    subst hc
    have hblank : isBlank '.' = false := rfl
    have hdigit : isDigit '.' = false := rfl
    have hnext : next.any isDigit = false := by
      cases next with
      | none => rfl
      | some d => exact hpoint rfl d rfl
    simp [of?, all, fits, hblank, hdigit, hnext, h]
  · rcases isPunctuation_iff.1 h with rfl | rfl | rfl | rfl | rfl | rfl | rfl | rfl | rfl | rfl | rfl
    case inr.inr.inr.inr.inr.inr.inr.inr.inr.inl => exact absurd rfl hhash
    case inr.inr.inr.inr.inr.inr.inr.inr.inr.inr => exact absurd rfl hc
    all_goals rfl

theorem of?_operator (h : isOperator c = true) (hslash : c = '/' → ∀ d ∈ next, d ≠ '/' ∧ d ≠ '*') :
    of? c next = some .operator := by
  by_cases hc : c = '/'
  · -- the only operator that what follows it can make something else
    subst hc
    have hblank : isBlank '/' = false := rfl
    have hdigit : isDigit '/' = false := rfl
    have hpunctuation : isPunctuation '/' = false := rfl
    have hstart : isIdentStart '/' = false := rfl
    have hline : next ≠ some '/' := fun hn => (hslash rfl '/' hn).1 rfl
    have hblock : next ≠ some '*' := fun hn => (hslash rfl '*' hn).2 rfl
    simp [of?, all, fits, hblank, hdigit, hpunctuation, hstart, hline, hblock, h]
  · rcases isOperator_iff.1 h with rfl | rfl | rfl | rfl | rfl | rfl | rfl | rfl | rfl | rfl | rfl | rfl | rfl
    case inr.inr.inr.inl => exact absurd rfl hc
    all_goals rfl

theorem of?_identStart (h : isIdentStart c = true) : of? c next = some .identifier := by
  have hblank : isBlank c = false := isBlank_eq_false h rfl rfl rfl
  have hslash : c ≠ '/' := ne_of_class h rfl
  have hpoint : c ≠ '.' := ne_of_class h rfl
  have hhash : c ≠ '#' := ne_of_class h rfl
  simp [of?, all, fits, h, hblank, hslash, hpoint, hhash, isDigit_eq_false_of_isIdentStart h,
    isPunctuation_eq_false_of_isIdentStart h]

theorem of?_quote (q : Quote) : of? q.char next = some (.quoted q) := by cases q <;> rfl

end Opening

namespace Lexeme

/-- A lexeme is found where its first two characters make its opening and its text follows. -/
theorem first?_cons {c : Char} {cs : List Char} {o : Opening} {l : Lexeme} (ho : Opening.of? c cs.head? = some o)
    (hl : o.lexeme c cs = l) : first? (c :: cs) = some l :=
  first?_eq_some_iff.2 ⟨c, cs, o, rfl, ho, hl⟩

theorem first?_number {text rest : List Char} (h : IsNumber text) (hr : Ends (.number text) rest) :
    first? (text ++ rest) = some (.number text) := by
  have hrun := numberRun_append h hr
  obtain ⟨a, b, ha, hb, h⟩ := h
  -- a number begins with a digit, or with a point that a digit follows
  have hopen : ∃ c cs, text = c :: cs ∧ Opening.of? c (cs ++ rest).head? = some .number := by
    rcases h with ⟨hne, rfl⟩ | ⟨hne, rfl⟩ | ⟨hne, rfl⟩
    · obtain ⟨c, cs, rfl⟩ := List.exists_cons_of_ne_nil hne
      exact ⟨c, cs, rfl, Opening.of?_digit (ha c List.mem_cons_self)⟩
    · obtain ⟨c, cs, rfl⟩ := List.exists_cons_of_ne_nil hne
      exact ⟨c, cs ++ '.' :: b, rfl, Opening.of?_digit (ha c List.mem_cons_self)⟩
    · obtain ⟨c, cs, rfl⟩ := List.exists_cons_of_ne_nil hne
      exact ⟨'.', c :: cs, rfl, Opening.of?_point (hb c List.mem_cons_self)⟩
  obtain ⟨c, cs, rfl, ho⟩ := hopen
  exact first?_cons ho (congrArg Lexeme.number hrun)

theorem first?_operator {text rest : List Char} (h : IsOperator text) (hr : Ends (.operator text) rest) :
    first? (text ++ rest) = some (.operator text) := by
  obtain ⟨hrepeat, hslash⟩ := hr
  obtain ⟨c, hc, ⟨hsingle, rfl⟩ | ⟨hrun, n, rfl⟩⟩ := h
  · have ho : Opening.of? c rest.head? = some .operator :=
      Opening.of?_operator hc fun h => hslash (by rw [h])
    refine first?_cons ho ?_
    simp [Opening.lexeme, hsingle]
  · have hne : c ≠ '/' := ne_of_class hrun rfl
    rw [List.replicate_succ, List.cons_append]
    refine first?_cons (Opening.of?_operator hc fun h => absurd h hne) ?_
    have hstop : ∀ d ∈ rest.head?, (d == c) = false := by
      intro d hd
      rw [beq_eq_false_iff_ne]
      rintro rfl
      exact hrepeat d hd hrun (List.mem_replicate.2 ⟨Nat.succ_ne_zero n, rfl⟩)
    simp only [Opening.lexeme, hrun, if_true]
    rw [takeWhile_append_stop (fun d hd => beq_iff_eq.2 (List.mem_replicate.1 hd).2) hstop]

theorem first?_quoted {q : Quote} {body rest more : List Char} {closed : Bool}
    (h : quotedBody q.char rest = (more, closed)) (hbody : QuotedText q.char body) :
    first? (q.char :: (body ++ rest)) = some (.quoted q (body ++ more) closed) := by
  refine first?_cons (Opening.of?_quote q) ?_
  rw [Opening.lexeme, quotedBody_append hbody h]

/-- **The reader finds every lexeme**: in front of a text that ends it, a well-formed lexeme is
the one the text begins with. -/
theorem first?_append {l : Lexeme} {rest : List Char} (hl : l.WellFormed) (hr : l.Ends rest) :
    first? (l.spelling ++ rest) = some l := by
  cases l with
  | space run =>
    obtain ⟨hne, hall⟩ := hl
    obtain ⟨c, cs, rfl⟩ := List.exists_cons_of_ne_nil hne
    rw [spelling, List.cons_append]
    refine first?_cons (Opening.of?_blank (hall c List.mem_cons_self)) ?_
    rw [Opening.lexeme, takeWhile_append_stop (fun d hd => hall d (List.mem_cons_of_mem c hd)) hr]
  | lineComment body =>
    have hbody : ∀ c ∈ body, (!isLineBreak c) = true := by
      intro c hc
      have hne : c ≠ '\n' := by rintro rfl; exact hl hc
      simp [isLineBreak, hne]
    have hstop : ∀ c ∈ rest.head?, (!isLineBreak c) = false := by
      intro c hc
      rw [hr c hc]
      rfl
    rw [spelling, List.cons_append, List.cons_append]
    refine first?_cons (o := .lineComment) rfl ?_
    rw [Opening.lexeme, List.tail_cons, takeWhile_append_stop hbody hstop]
  | blockComment body closed =>
    rw [spelling, List.cons_append, List.cons_append]
    refine first?_cons (o := .blockComment) rfl ?_
    rw [Opening.lexeme, List.tail_cons]
    cases closed with
    | true =>
      rw [if_pos rfl, List.append_assoc, List.cons_append, List.cons_append, List.nil_append, blockBody_append rest hl]
    | false =>
      obtain rfl : rest = [] := hr rfl
      rw [if_neg (by decide), List.append_nil, List.append_nil, blockBody_open hl]
  | number text => exact first?_number hl hr
  | color digits =>
    rw [spelling, List.cons_append]
    refine first?_cons (o := .hash) rfl ?_
    rw [Opening.lexeme, colorDigits?_append hl.1 hl.2 hr]
  | punctuation c =>
    rw [spelling, List.singleton_append]
    by_cases hhash : c = '#'
    · subst hhash
      refine first?_cons (o := .hash) rfl ?_
      rw [Opening.lexeme, hr.2 rfl]
    · exact first?_cons (Opening.of?_punctuation hl hhash hr.1) rfl
  | operator text => exact first?_operator hl hr
  | identifier name =>
    obtain ⟨c, cs, rfl, hc, hcs⟩ := hl
    rw [spelling, List.cons_append]
    refine first?_cons (Opening.of?_identStart hc) ?_
    rw [Opening.lexeme, takeWhile_append_stop hcs hr]
  | quoted q body closed =>
    cases closed with
    | true =>
      have hbody : QuotedText q.char body := hl.resolve_right fun h => Bool.noConfusion h.1
      have hquote : quotedBody q.char (q.char :: rest) = ([], true) := by
        rw [quotedBody_other q.char_ne_backslash, if_pos rfl]
      have hfirst := first?_quoted hquote hbody
      simpa [spelling] using hfirst
    | false =>
      obtain rfl : rest = [] := hr rfl
      rcases hl with hbody | ⟨-, start, hstart, rfl⟩
      · have hfirst := first?_quoted (show quotedBody q.char [] = ([], false) from rfl) hbody
        simpa [spelling] using hfirst
      · have hquote : quotedBody q.char ['\\'] = (['\\'], false) := by cases q <;> rfl
        have hfirst := first?_quoted hquote hstart
        simpa [spelling] using hfirst
  | atRule name =>
    rw [spelling, List.cons_append]
    refine first?_cons (o := .atRule) rfl ?_
    rw [Opening.lexeme, takeWhile_append_stop hl hr]
  | variableName name =>
    rw [spelling, List.cons_append]
    refine first?_cons (o := .variableName) rfl ?_
    rw [Opening.lexeme, takeWhile_append_stop hl hr]

end Lexeme

end Stylesheet
