import Stylesheet.Proofs.CharClass
import Stylesheet.Proofs.Place
import Stylesheet.Proofs.Reading
import Mathlib.Data.List.TakeWhile

/-!
# Which sources can be read

The reader goes from lexeme to lexeme, with a fixed order of preference among them and with look
ahead. Whether it can read a source is decided by much less: a scan that goes over the text once,
character by character, and remembers only whether it is in code, in a comment or in a string
(`scan`). Nothing inside a comment or a string can be at fault; in code, the first character that
is neither a quote nor one of a fixed set is.

The two agree because a lexeme that is neither a comment nor a string is made of characters
that the scan passes one by one in code, and none of them can be the beginning of a comment or
a string (`scan_run`); and a comment or a string ends where the scan returns to code
(`scan_block`, `scan_quoted`). Main statement: `all_fails_iff_scan_stops`.
-/

namespace Stylesheet

open Lexeme

/-! ### The scan -/

/-- What the scan is in the middle of. -/
inductive Mode where
  /-- Nothing in particular. -/
  | code
  /-- A comment that ends with its line. -/
  | lineComment
  /-- A comment that star and slash end. -/
  | blockComment
  /-- A string that a quote ends. -/
  | quoted (quote : Quote)
  deriving DecidableEq, Repr

/-- The characters that may stand in code, the quotes apart. -/
def isCode (c : Char) : Bool :=
  c == '\t' || c == '\n' || c == ' ' || isDigit c || isLetter c || c == '_' || isPunctuation c || isOperator c ||
    c == '@' || c == '$'

/-- Goes over a text in a mode. If a character in code is neither a quote nor one that may stand
there, the scan stops at it and gives its index, the text beginning at index `k`. -/
def scan : Mode → Nat → List Char → Option (Nat × Char)
  | _, _, [] => none
  | .code, k, '/' :: '/' :: cs => scan .lineComment (k + 2) cs
  | .code, k, '/' :: '*' :: cs => scan .blockComment (k + 2) cs
  | .code, k, c :: cs =>
    if c = '"' then scan (.quoted .double) (k + 1) cs
    else if c = '\'' then scan (.quoted .single) (k + 1) cs
    else if isCode c then scan .code (k + 1) cs
    else some (k, c)
  -- the line feed behind a line comment is read in code, where it may stand
  | .lineComment, k, c :: cs => if c = '\n' then scan .code (k + 1) cs else scan .lineComment (k + 1) cs
  | .blockComment, k, '*' :: '/' :: cs => scan .code (k + 2) cs
  | .blockComment, k, _ :: cs => scan .blockComment (k + 1) cs
  | .quoted q, k, '\\' :: _ :: cs => scan (.quoted q) (k + 2) cs
  | .quoted q, k, c :: cs => if c = q.char then scan .code (k + 1) cs else scan (.quoted q) (k + 1) cs

/-! ### Code -/

/-- The characters that the scan passes in code whatever follows them. -/
def isPlain (c : Char) : Bool := isCode c && c != '/'

theorem scan_code_other {c : Char} {cs : List Char} (k : Nat)
    (h : c = '/' → cs.head? ≠ some '/' ∧ cs.head? ≠ some '*') :
    scan .code k (c :: cs) =
      if c = '"' then scan (.quoted .double) (k + 1) cs
      else if c = '\'' then scan (.quoted .single) (k + 1) cs
      else if isCode c then scan .code (k + 1) cs
      else some (k, c) := by
  rw [scan]
  · rintro cs' rfl rfl
    exact (h rfl).1 rfl
  · rintro cs' rfl rfl
    exact (h rfl).2 rfl

/-- A character that may stand in code is passed, unless it is a slash that opens a comment. -/
theorem scan_code_pass {c : Char} {cs : List Char} (k : Nat) (hc : isCode c = true)
    (h : c = '/' → cs.head? ≠ some '/' ∧ cs.head? ≠ some '*') : scan .code k (c :: cs) = scan .code (k + 1) cs := by
  rw [scan_code_other k h, if_neg, if_neg, if_pos hc]
  · exact ne_of_class hc rfl
  · exact ne_of_class hc rfl

/-- A run of plain characters is passed. -/
theorem scan_run (k : Nat) {run : List Char} (more : List Char) (h : ∀ c ∈ run, isPlain c = true) :
    scan .code k (run ++ more) = scan .code (k + run.length) more := by
  induction run generalizing k with
  | nil => rfl
  | cons c run ih =>
    have hc := h c List.mem_cons_self
    simp only [isPlain, Bool.and_eq_true, bne_iff_ne] at hc
    rw [List.cons_append, scan_code_pass k hc.1 fun hslash => absurd hslash hc.2,
      ih (k + 1) fun d hd => h d (List.mem_cons_of_mem c hd), List.length_cons]
    congr 1
    omega

/-- A lexeme made of plain characters is passed. -/
theorem scan_of_plain (k : Nat) {raw text : List Char} (hraw : raw <+: text) (h : ∀ c ∈ raw, isPlain c = true) :
    scan .code k text = scan .code (k + raw.length) (text.drop raw.length) := by
  obtain ⟨more, rfl⟩ := hraw
  rw [scan_run k more h, List.drop_left]

/-! ### Which classes are plain -/

theorem isPlain_of_isBlank {c : Char} (h : isBlank c = true) : isPlain c = true := by
  rcases isBlank_iff.1 h with rfl | rfl | rfl <;> rfl

theorem isPlain_of_isCode {c : Char} (h : isCode c = true) (hslash : c ≠ '/') : isPlain c = true := by
  rw [isPlain, h, Bool.true_and, bne_iff_ne]
  exact hslash

theorem isPlain_of_isDigit {c : Char} (h : isDigit c = true) : isPlain c = true :=
  isPlain_of_isCode (by simp [isCode, h]) (ne_of_class h rfl)

theorem isPlain_of_isLetter {c : Char} (h : isLetter c = true) : isPlain c = true :=
  isPlain_of_isCode (by simp [isCode, h]) (ne_of_class h rfl)

theorem isPlain_of_isPunctuation {c : Char} (h : isPunctuation c = true) : isPlain c = true :=
  isPlain_of_isCode (by simp [isCode, h]) (ne_of_class h rfl)

theorem isPlain_of_isOperator {c : Char} (h : isOperator c = true) (hslash : c ≠ '/') : isPlain c = true :=
  isPlain_of_isCode (by simp [isCode, h]) hslash

theorem isPlain_of_isIdentStart {c : Char} (h : isIdentStart c = true) : isPlain c = true := by
  rcases Bool.or_eq_true_iff.1 h with h | h
  · exact isPlain_of_isLetter h
  · obtain rfl : c = '_' := by simpa using h
    rfl

theorem isPlain_of_isIdentChar {c : Char} (h : isIdentChar c = true) : isPlain c = true := by
  rcases Bool.or_eq_true_iff.1 h with h | h
  · rcases Bool.or_eq_true_iff.1 h with h | h
    · exact isPlain_of_isIdentStart h
    · exact isPlain_of_isDigit h
  · obtain rfl : c = '-' := by simpa using h
    rfl

theorem isPlain_of_isHexDigit {c : Char} (h : isHexDigit c = true) : isPlain c = true := by
  cases hd : isDigit c with
  | true => exact isPlain_of_isDigit hd
  | false => exact isPlain_of_isLetter (isLetter_of_isHexDigit h hd)

/-- A plain character and a run of a plain class behind it are plain. -/
theorem isPlain_cons_takeWhile {p : Char → Bool} {c : Char} (cs : List Char) (hc : isPlain c = true)
    (hp : ∀ d, p d = true → isPlain d = true) : ∀ d ∈ c :: cs.takeWhile p, isPlain d = true := by
  intro d hd
  rcases List.mem_cons.1 hd with rfl | hd
  · exact hc
  · exact hp d (List.mem_takeWhile_imp hd)

theorem isPlain_numberRun {text : List Char} : ∀ c ∈ numberRun text, isPlain c = true := by
  intro c hc
  rw [numberRun, List.mem_append] at hc
  rcases hc with hc | hc
  · exact isPlain_of_isDigit (List.mem_takeWhile_imp hc)
  · split at hc
    · exact isPlain_cons_takeWhile _ rfl (fun _ => isPlain_of_isDigit) c hc
    · cases hc

theorem isHexDigit_of_mem_colorDigits? {text digits : List Char} (h : colorDigits? text = some digits) {c : Char}
    (hc : c ∈ digits) : isHexDigit c = true := by
  simp only [colorDigits?] at h
  split at h
  · cases h
    exact List.mem_takeWhile_imp hc
  · cases h

/-- A hash is plain, with or without the digits of a colour. -/
theorem isPlain_hash (cs : List Char) : ∀ d ∈ (Opening.hash.lexeme '#' cs).spelling, isPlain d = true := by
  intro d hd
  simp only [Opening.lexeme] at hd
  split at hd
  · next digits hdigits =>
    rcases List.mem_cons.1 hd with rfl | hd
    · rfl
    · exact isPlain_of_isHexDigit (isHexDigit_of_mem_colorDigits? hdigits hd)
  · obtain rfl := List.mem_singleton.1 hd
    rfl

theorem isPlain_operator {c : Char} (hc : isPlain c = true) (cs : List Char) :
    ∀ d ∈ (Opening.operator.lexeme c cs).spelling, isPlain d = true := by
  intro d hd
  simp only [Opening.lexeme, spelling] at hd
  split at hd
  · have hsame : ∀ e, (e == c) = true → isPlain e = true := by
      intro e he
      rwa [beq_iff_eq.1 he]
    exact isPlain_cons_takeWhile cs hc hsame d hd
  · rwa [List.mem_singleton.1 hd]

/-! ### Comments and strings -/

theorem scan_line (k : Nat) (cs : List Char) :
    scan .lineComment k cs =
      scan .code (k + (cs.takeWhile (!isLineBreak ·)).length) (cs.drop (cs.takeWhile (!isLineBreak ·)).length) := by
  induction cs generalizing k with
  | nil => rfl
  | cons c cs ih =>
    rw [scan]
    by_cases hc : c = '\n'
    · subst hc
      rw [if_pos rfl]
      exact (scan_code_pass k rfl fun h => absurd h (by decide)).symm
    · have hline : (!isLineBreak c) = true := by simp [isLineBreak, hc]
      rw [if_neg hc, ih, List.takeWhile_cons, if_pos hline, List.length_cons, List.drop_succ_cons]
      congr 1
      omega

theorem scan_block (k : Nat) (cs : List Char) :
    scan .blockComment k cs =
      scan .code (k + ((blockBody cs).1 ++ if (blockBody cs).2 then ['*', '/'] else []).length)
        (cs.drop ((blockBody cs).1 ++ if (blockBody cs).2 then ['*', '/'] else []).length) := by
  fun_induction blockBody cs generalizing k with
  | case1 => rfl
  | case2 rest => rfl
  | case3 c cs hc body closed hb ih =>
    rw [hb] at ih
    rw [scan, ih, List.cons_append, List.length_cons, List.drop_succ_cons]
    · dsimp only
      congr 1
      omega
    · rintro cs' rfl rfl
      exact hc cs' rfl rfl

theorem scan_quoted_other {q : Quote} {c : Char} {cs : List Char} (k : Nat)
    (h : ∀ d ds, c = '\\' → cs = d :: ds → False) :
    scan (.quoted q) k (c :: cs) = if c = q.char then scan .code (k + 1) cs else scan (.quoted q) (k + 1) cs := by
  rw [scan]
  rintro d ds rfl rfl
  exact h d ds rfl rfl

theorem scan_quoted (q : Quote) (k : Nat) (cs : List Char) :
    scan (.quoted q) k cs =
      scan .code (k + ((quotedBody q.char cs).1 ++ if (quotedBody q.char cs).2 then [q.char] else []).length)
        (cs.drop ((quotedBody q.char cs).1 ++ if (quotedBody q.char cs).2 then [q.char] else []).length) := by
  fun_induction quotedBody q.char cs generalizing k with
  | case1 => rfl
  | case2 d cs body closed hb ih =>
    rw [hb] at ih
    rw [scan, ih, List.cons_append, List.cons_append, List.length_cons, List.length_cons, List.drop_succ_cons,
      List.drop_succ_cons]
    dsimp only
    congr 1
    omega
  | case3 cs hesc =>
    rw [scan_quoted_other k hesc, if_pos rfl]
    rfl
  | case4 c cs hesc hc body closed hb ih =>
    rw [hb] at ih
    rw [scan_quoted_other k hesc, if_neg hc, ih, List.cons_append, List.length_cons, List.drop_succ_cons]
    dsimp only
    congr 1
    omega

/-! ### Lexemes -/

/-- A slash that is an operator opens no comment. -/
theorem of?_slash_operator {next : Option Char} (h : Opening.of? '/' next = some .operator) :
    next ≠ some '/' ∧ next ≠ some '*' := by
  constructor
  · rintro rfl; revert h; decide
  · rintro rfl; revert h; decide

/-- **The scan passes a lexeme as a whole** and is in code again behind it. -/
theorem scan_first? {text : List Char} {l : Lexeme} (h : first? text = some l) (k : Nat) :
    scan .code k text = scan .code (k + l.spelling.length) (text.drop l.spelling.length) := by
  have hp := spelling_isPrefix h
  obtain ⟨c, cs, o, rfl, ho, rfl⟩ := first?_eq_some_iff.1 h
  have hfits := Opening.fits_of_of? ho
  cases o with
  | blank =>
    have hplain := isPlain_cons_takeWhile cs (isPlain_of_isBlank hfits) fun _ => isPlain_of_isBlank
    exact scan_of_plain k hp hplain
  | lineComment =>
    obtain ⟨rfl, hs⟩ : c = '/' ∧ cs.head? = _ := by simpa [Opening.fits] using hfits
    obtain ⟨rest, rfl⟩ := List.head?_eq_some_iff.1 hs
    rw [scan, scan_line]
    simp only [Opening.lexeme, spelling, List.tail_cons, List.length_cons, List.drop_succ_cons]
    congr 1
    omega
  | blockComment =>
    obtain ⟨rfl, hs⟩ : c = '/' ∧ cs.head? = _ := by simpa [Opening.fits] using hfits
    obtain ⟨rest, rfl⟩ := List.head?_eq_some_iff.1 hs
    rw [scan, scan_block]
    simp only [Opening.lexeme, spelling, List.tail_cons, List.length_cons, List.drop_succ_cons]
    congr 1
    omega
  | number => exact scan_of_plain k hp isPlain_numberRun
  | hash =>
    obtain rfl : c = '#' := by simpa [Opening.fits] using hfits
    exact scan_of_plain k hp (isPlain_hash cs)
  | punctuation =>
    refine scan_of_plain k hp fun d hd => ?_
    obtain rfl := List.mem_singleton.1 hd
    exact isPlain_of_isPunctuation hfits
  | identifier =>
    have hplain := isPlain_cons_takeWhile cs (isPlain_of_isIdentStart hfits) fun _ => isPlain_of_isIdentChar
    exact scan_of_plain k hp hplain
  | operator =>
    by_cases hslash : c = '/'
    · -- the only lexeme with a slash that is no comment
      subst hslash
      exact scan_code_pass k rfl fun _ => of?_slash_operator ho
    · exact scan_of_plain k hp (isPlain_operator (isPlain_of_isOperator hfits hslash) cs)
  | quoted q =>
    obtain rfl : c = q.char := by simpa [Opening.fits] using hfits
    have hscan : scan .code k (q.char :: cs) = scan (.quoted q) (k + 1) cs := by
      cases q with
      | double => exact scan_code_other k fun h => absurd h (by decide)
      | single => exact scan_code_other k fun h => absurd h (by decide)
    rw [hscan, scan_quoted]
    simp only [Opening.lexeme, spelling, List.length_cons, List.drop_succ_cons]
    congr 1
    omega
  | atRule =>
    obtain rfl : c = '@' := by simpa [Opening.fits] using hfits
    have hplain := isPlain_cons_takeWhile (c := '@') cs rfl fun _ => isPlain_of_isIdentChar
    exact scan_of_plain k hp hplain
  | variableName =>
    obtain rfl : c = '$' := by simpa [Opening.fits] using hfits
    have hplain := isPlain_cons_takeWhile (c := '$') cs rfl fun _ => isPlain_of_isIdentChar
    exact scan_of_plain k hp hplain

theorem not_fits_of_of?_eq_none {c : Char} {next : Option Char} (h : Opening.of? c next = none) (o : Opening) :
    o.fits c next = false := by
  have hmem : o ∈ Opening.all := by
    cases o with
    | quoted q => cases q <;> decide
    | _ => decide
  simpa using List.find?_eq_none.1 h o hmem

/-- A character that opens no lexeme is a quote nowhere and may not stand in code. -/
theorem scan_not_first? {c : Char} {cs : List Char} (h : first? (c :: cs) = none) (k : Nat) :
    scan .code k (c :: cs) = some (k, c) := by
  have hfits := not_fits_of_of?_eq_none (Option.map_eq_none_iff.1 h)
  have hblank : isBlank c = false := hfits .blank
  have hdigit : isDigit c = false := (Bool.or_eq_false_iff.1 (hfits .number)).1
  have hstart : isIdentStart c = false := hfits .identifier
  have hpunctuation : isPunctuation c = false := hfits .punctuation
  have hoperator : isOperator c = false := hfits .operator
  have hat : (c == '@') = false := hfits .atRule
  have hdollar : (c == '$') = false := hfits .variableName
  have hdouble : c ≠ '"' := by simpa [Opening.fits, Quote.char] using hfits (.quoted .double)
  have hsingle : c ≠ '\'' := by simpa [Opening.fits, Quote.char] using hfits (.quoted .single)
  obtain ⟨hletter, hunderscore⟩ := Bool.or_eq_false_iff.1 hstart
  have hcode : isCode c = false := by
    rw [isBlank] at hblank
    rw [isCode, hblank, hdigit, hletter, hunderscore, hpunctuation, hoperator, hat, hdollar]
    rfl
  rw [scan_code_other, if_neg hdouble, if_neg hsingle, if_neg (ne_true_of_eq_false hcode)]
  rintro rfl
  cases hoperator

/-- **The scan stops where the lexemes end**: at the rest, if anything is left there. -/
theorem scan_cuts {text rest : List Char} {ls : List Lexeme} (h : Cuts text ls rest) (k : Nat) :
    scan .code k text = rest.head?.map fun c => (k + (spelled ls).length, c) := by
  induction h generalizing k with
  | @stop rest h =>
    cases rest with
    | nil => rfl
    | cons c cs => exact scan_not_first? h k
  | @read l text more rest ls hl ht _ ih =>
    rw [scan_first? hl, ht, List.drop_left, ih, spelled_cons, List.length_append, Nat.add_assoc]

/-! ### What code cannot hold -/

/-- Code holds tabs, line feeds and visible characters of ASCII, but no backslash. -/
theorem eq_or_of_isCode {c : Char} (h : isCode c = true) :
    c = '\t' ∨ c = '\n' ∨ 32 ≤ c.toNat ∧ c.toNat < 127 ∧ c.toNat ≠ 92 := by
  simp only [isCode, Bool.or_eq_true, beq_iff_eq] at h
  rcases h with ((((((((rfl | rfl) | rfl) | h) | h) | rfl) | h) | h) | rfl) | rfl
  · exact .inl rfl
  · exact .inr (.inl rfl)
  · decide
  · rw [isDigit_iff] at h
    omega
  · rw [isLetter_iff] at h
    omega
  · decide
  · rcases isPunctuation_iff.1 h with rfl | rfl | rfl | rfl | rfl | rfl | rfl | rfl | rfl | rfl | rfl <;> decide
  · rcases isOperator_iff.1 h with rfl | rfl | rfl | rfl | rfl | rfl | rfl | rfl | rfl | rfl | rfl | rfl | rfl <;>
      decide
  · decide
  · decide

/-- A control character other than tab and line feed, a backslash or a character outside ASCII
stops the scan in code. -/
theorem scan_code_stop {c : Char} (h : c.toNat < 32 ∧ c ≠ '\t' ∧ c ≠ '\n' ∨ c = '\\' ∨ 127 ≤ c.toNat) (k : Nat)
    (cs : List Char) : scan .code k (c :: cs) = some (k, c) := by
  have hcode : ¬ isCode c = true := by
    intro hc
    rcases eq_or_of_isCode hc with rfl | rfl | ⟨h1, h2, h3⟩
    · revert h; decide
    · revert h; decide
    · rcases h with h | rfl | h
      · omega
      · exact h3 rfl
      · omega
  have hne : ∀ d : Char, ¬ (d.toNat < 32 ∧ d ≠ '\t' ∧ d ≠ '\n' ∨ d = '\\' ∨ 127 ≤ d.toNat) → c ≠ d := by
    rintro d hd rfl
    exact hd h
  rw [scan_code_other k fun hslash => absurd hslash (hne '/' (by decide)), if_neg (hne '"' (by decide)),
    if_neg (hne '\'' (by decide)), if_neg hcode]

/-- The scan goes forward. -/
theorem le_of_scan {m : Mode} {k j : Nat} {text : List Char} {c : Char} (h : scan m k text = some (j, c)) : k ≤ j := by
  fun_induction scan m k text with
  | case1 => cases h
  | case7 => cases h; exact Nat.le_refl _
  | _ =>
    rename_i ih
    have := ih h
    omega

/-- In a comment or a string the scan never stops at the next character. -/
theorem lt_of_scan {m : Mode} {k j : Nat} {text : List Char} {c : Char} (hm : m ≠ .code)
    (h : scan m k text = some (j, c)) : k < j := by
  fun_induction scan m k text with
  | case1 => cases h
  | case2 | case3 | case4 | case5 | case6 | case7 => exact absurd rfl hm
  | _ =>
    have := le_of_scan h
    omega

/-! ### Sources -/

/-- **Exact acceptance.** All tokens of a source can be taken unless the scan stops. If it stops,
it does so at the character of the error: its index, and the line and the column of that index,
are the error's position, and the message names it. In code the scan stops at every control
character but tab and line feed, at a backslash and outside ASCII; in comments and strings it
passes whatever there is. -/
theorem all_fails_iff_scan_stops (source : String) :
    ((∃ e, (TokenStream.ofSource source).all.1 = .error e) ↔ ∃ k c, scan .code 0 source.toList = some (k, c)) ∧
      (∀ k c, scan .code 0 source.toList = some (k, c) →
        source.toList[k]? = some c ∧
          ∃ e, (TokenStream.ofSource source).all.1 = .error (.lex e) ∧ e.position = some (placeAt source.toList k) ∧
            e.message = "Can't handle character: \"" ++ String.singleton c ++ "\"") ∧
      (∀ k c cs, c.toNat < 32 ∧ c ≠ '\t' ∧ c ≠ '\n' ∨ c = '\\' ∨ 127 ≤ c.toNat →
        scan .code k (c :: cs) = some (k, c)) ∧
      ∀ m k c cs, m ≠ .code → scan m k (c :: cs) ≠ some (k, c) := by
  obtain ⟨ls, rest, h⟩ := exists_cuts source.toList
  have hscan := scan_cuts h 0
  have hall := TokenStream.all_ofSource source
  rw [tokenize_of_cuts h] at hall
  rw [Nat.zero_add] at hscan
  refine ⟨?_, ?_, fun k c cs hc => scan_code_stop hc k cs,
    fun m k c cs hm hstop => absurd (lt_of_scan hm hstop) (Nat.lt_irrefl k)⟩
  · rw [hall, hscan]
    cases rest with
    | nil => simp
    | cons c cs => simp
  · intro k c hk
    rw [hscan] at hk
    obtain ⟨d, hd, hkc⟩ := Option.map_eq_some_iff.1 hk
    obtain ⟨rfl, rfl⟩ := Prod.mk.inj hkc
    obtain ⟨cs, rfl⟩ := List.head?_eq_some_iff.1 hd
    have htext := h.text_eq
    have hplace : Position.start.advance (spelled ls) = placeAt source.toList (spelled ls).length := by
      rw [← start_advance_take _ (by rw [htext, List.length_append]; omega), h.take_text]
    refine ⟨?_, _, hall, congrArg some hplace, rfl⟩
    rw [htext, List.getElem?_append_right (Nat.le_refl _), Nat.sub_self]
    rfl

end Stylesheet
