import Stylesheet.Proofs.Recognition

/-!
# How far an edit reaches back

Where a lexeme ends is decided by what follows it, and the kinds of lexeme look differently far:
not at all behind a closed string, at one character behind most, and at seven behind a hash, which
might begin a colour. So two texts that begin alike are read alike, up to seven characters before
the end of their common beginning (`Cuts.isPrefix_of_take`).

A character that opens no lexeme is a barrier: no look ahead goes past it, since it is neither a
digit nor anything else that a lexeme could go on with. An error is therefore decided by the text
up to and with the character at fault, without any margin (`Cuts.replace_rest`). Main statement:
`tokenize_margin`.
-/

namespace Stylesheet

open Lexeme Input

namespace Lexeme

/-! ### What a lexeme looks at -/

/-- Whether a lexeme ends is decided by the next character, and by the hexadecimal digits among the
next seven. -/
theorem Ends.congr {l : Lexeme} {rest rest' : List Char} (h : l.Ends rest) (hhead : rest.head? = rest'.head?)
    (hdigits : (rest.take 7).takeWhile isHexDigit = (rest'.take 7).takeWhile isHexDigit) : l.Ends rest' := by
  have hnil : rest = [] → rest' = [] := by
    rintro rfl
    exact List.head?_eq_none_iff.1 hhead.symm
  cases l with
  | blockComment body closed => exact fun hopen => hnil (h hopen)
  | quoted q body closed => exact fun hopen => hnil (h hopen)
  | punctuation c =>
    have hcolor : colorDigits? rest = colorDigits? rest' := by rw [colorDigits?, colorDigits?, hdigits]
    rw [Ends, hhead, hcolor] at h
    exact h
  | _ => rw [Ends, hhead] at h; exact h

theorem first?_congr {l : Lexeme} {rest rest' : List Char} (h : first? (l.spelling ++ rest) = some l)
    (hhead : rest.head? = rest'.head?)
    (hdigits : (rest.take 7).takeWhile isHexDigit = (rest'.take 7).takeWhile isHexDigit) :
    first? (l.spelling ++ rest') = some l := by
  obtain ⟨hl, hends⟩ := first?_append_iff.1 h
  exact first?_append_iff.2 ⟨hl, hends.congr hhead hdigits⟩

/-! ### Texts that begin alike -/

/-- A text that begins as another one does begins with the same piece, and goes on alike. -/
theorem exists_append_of_take {a rest text : List Char} {n : Nat} (h : (a ++ rest).take n = text.take n)
    (hn : a.length ≤ n) :
    ∃ rest', text = a ++ rest' ∧ rest.take (n - a.length) = rest'.take (n - a.length) := by
  have hsplit : a ++ rest.take (n - a.length) = text.take n := by
    rw [← h, List.take_append, List.take_of_length_le hn]
  have hbegin : a <+: text := (List.prefix_append a _).trans (hsplit ▸ List.take_prefix n text)
  obtain ⟨rest', rfl⟩ := hbegin
  refine ⟨rest', rfl, ?_⟩
  rw [List.take_append, List.take_of_length_le hn] at hsplit
  exact List.append_cancel_left hsplit

/-- A lexeme is found in both of two texts that begin alike, if they do so for seven characters
behind it. -/
theorem first?_margin {l : Lexeme} {rest rest' : List Char} {m : Nat} (h : first? (l.spelling ++ rest) = some l)
    (hrest : rest.take m = rest'.take m) (hm : 7 ≤ m) : first? (l.spelling ++ rest') = some l := by
  have htake : ∀ k, k ≤ m → rest.take k = rest'.take k := by
    intro k hk
    have hcut := congrArg (List.take k) hrest
    rwa [List.take_take, List.take_take, Nat.min_eq_left hk] at hcut
  have hhead : rest.head? = rest'.head? := by
    have hone := congrArg List.head? (htake 1 (by omega))
    rwa [List.head?_take, List.head?_take, if_neg Nat.one_ne_zero, if_neg Nat.one_ne_zero] at hone
  exact first?_congr h hhead (by rw [htake 7 hm])

/-- **Lexemes of a common beginning are common**, but for a margin of seven characters. -/
theorem Cuts.isPrefix_of_take {before more ls : List Lexeme} {text text' rest rest' : List Char} {n : Nat}
    (h : Cuts text (before ++ more) rest) (h' : Cuts text' ls rest') (ht : text.take n = text'.take n)
    (hn : (spelled before).length + 7 ≤ n) : before <+: ls := by
  induction before generalizing text text' ls n with
  | nil => exact List.nil_prefix
  | cons l before ih =>
    rw [spelled_cons, List.length_append] at hn
    rw [List.cons_append] at h
    cases h with
    | @read _ _ follow _ _ hl htext hcuts =>
      subst htext
      obtain ⟨follow', rfl, hfollow⟩ := exists_append_of_take ht (by omega)
      have hl' : first? (l.spelling ++ follow') = some l := first?_margin hl hfollow (by omega)
      cases h' with
      | stop hnone =>
        rw [hl'] at hnone
        cases hnone
      | @read l' _ more' _ ls' hread htext' hcuts' =>
        obtain rfl : l = l' := Option.some.inj (hl'.symm.trans hread)
        obtain rfl := List.append_cancel_left htext'
        exact List.cons_prefix_cons.2 ⟨rfl, ih hcuts hcuts' hfollow (by omega)⟩

/-! ### Errors -/

/-- What follows a character does not help it to open a lexeme. -/
theorem first?_eq_none_congr {c : Char} {cs : List Char} (h : first? (c :: cs) = none) (cs' : List Char) :
    first? (c :: cs') = none := by
  have hfits := not_fits_of_of?_eq_none (Option.map_eq_none_iff.1 h)
  have hslash : c ≠ '/' := by
    rintro rfl
    cases (hfits .operator : isOperator '/' = false)
  have hpoint : c ≠ '.' := by
    rintro rfl
    cases (hfits .punctuation : isPunctuation '.' = false)
  refine Option.map_eq_none_iff.2 (List.find?_eq_none.2 ?_)
  intro o _
  rw [Bool.not_eq_true]
  have ho := hfits o
  cases o with
  | lineComment => simp [Opening.fits, hslash]
  | blockComment => simp [Opening.fits, hslash]
  | number =>
    have hdigit : isDigit c = false := (Bool.or_eq_false_iff.1 ho).1
    simp [Opening.fits, hdigit, hpoint]
  | _ => exact ho

theorem isHexDigit_eq_false_of_first? {c : Char} {cs : List Char} (h : first? (c :: cs) = none) :
    isHexDigit c = false := by
  have hfits := not_fits_of_of?_eq_none (Option.map_eq_none_iff.1 h)
  have hdigit : isDigit c = false := (Bool.or_eq_false_iff.1 (hfits .number)).1
  have hletter : isLetter c = false := (Bool.or_eq_false_iff.1 (hfits .identifier)).1
  rw [← Bool.not_eq_true]
  intro hhex
  rw [isLetter_of_isHexDigit hhex hdigit] at hletter
  cases hletter

theorem Cuts.first?_rest {text rest : List Char} {ls : List Lexeme} (h : Cuts text ls rest) : first? rest = none := by
  induction h with
  | stop h => exact h
  | read _ _ _ ih => exact ih

/-- A run does not go past a character that is not in its class. -/
theorem takeWhile_append_barrier {p : Char → Bool} {c : Char} (hc : p c = false) (a b : List Char) :
    (a ++ c :: b).takeWhile p = a.takeWhile p := by
  induction a with
  | nil => rw [List.nil_append, List.takeWhile_cons_of_neg (ne_true_of_eq_false hc), List.takeWhile_nil]
  | cons d a ih => rw [List.cons_append, List.takeWhile_cons, List.takeWhile_cons, ih]

/-- **What follows a character at fault does not matter** to what is read before it, nor to the
fault. -/
theorem Cuts.replace_rest {text rest : List Char} {ls : List Lexeme} {c : Char} (h : Cuts text ls (c :: rest))
    (rest' : List Char) : Cuts (spelled ls ++ c :: rest') ls (c :: rest') := by
  have hhex : isHexDigit c = false := isHexDigit_eq_false_of_first? h.first?_rest
  generalize hr : c :: rest = fault at h
  induction h with
  | stop hnone =>
    subst hr
    exact .stop (first?_eq_none_congr hnone rest')
  | @read l text more fault ls hl htext hcuts ih =>
    subst hr htext
    rw [hcuts.text_eq] at hl
    rw [spelled_cons, List.append_assoc]
    refine .read (first?_congr hl ?_ ?_) rfl (ih rfl)
    · cases spelled ls <;> rfl
    · rw [← List.take_takeWhile, ← List.take_takeWhile, takeWhile_append_barrier hhex, takeWhile_append_barrier hhex]

/-! ### Tokens -/

/-- The token with a given number is that of the lexeme with that number, where those before it
end. -/
theorem getElem?_toTokens (p : Position) (ls : List Lexeme) (k : Nat) :
    (toTokens p ls)[k]? = ls[k]?.map fun l => l.toToken (p.advance (spelled (ls.take k))) := by
  induction ls generalizing p k with
  | nil => rfl
  | cons l ls ih =>
    cases k with
    | zero => rfl
    | succ k =>
      rw [toTokens, List.getElem?_cons_succ, List.getElem?_cons_succ, ih, List.take_succ_cons, spelled_cons,
        Position.advance_append]

end Lexeme

/-- A token that ends seven characters before the end of a common beginning is common. -/
theorem getElem?_tokens_margin {source source' : String} {n k : Nat} {t : Token}
    (h : source.toList.take n = source'.toList.take n) (ht : (tokenize source).tokens[k]? = some t)
    (hn : t.finish.cursor + 7 ≤ n) : (tokenize source').tokens[k]? = some t := by
  obtain ⟨ls, rest, hcuts⟩ := exists_cuts source.toList
  obtain ⟨ls', rest', hcuts'⟩ := exists_cuts source'.toList
  rw [tokenize_of_cuts hcuts] at ht
  rw [tokenize_of_cuts hcuts']
  simp only [getElem?_toTokens] at ht ⊢
  obtain ⟨l, hl, rfl⟩ := Option.map_eq_some_iff.1 ht
  obtain ⟨hk, rfl⟩ := List.getElem?_eq_some_iff.1 hl
  -- the token ends where the lexemes up to its own do
  have hfinish : (spelled (ls.take (k + 1))).length + 7 ≤ n := by
    rw [toToken, ← Position.advance_append, cursor_start_advance] at hn
    rw [List.take_succ_eq_append_getElem hk, spelled_append, spelled_singleton]
    omega
  rw [← List.take_append_drop (k + 1) ls] at hcuts
  obtain ⟨more, rfl⟩ := hcuts.isPrefix_of_take hcuts' h hfinish
  have hlength : (ls.take (k + 1)).length = k + 1 := List.length_take_of_le hk
  have hsame : (ls.take (k + 1) ++ more)[k]? = some ls[k] := by
    rw [List.getElem?_append_left (by omega), List.getElem?_take_of_lt (by omega), List.getElem?_eq_getElem hk]
  have hbefore : (ls.take (k + 1) ++ more).take k = ls.take k := by
    rw [List.take_append_of_le_length (by omega), List.take_take, Nat.min_eq_left (by omega)]
  rw [hsame, hbefore]
  rfl

/-- An error within a common beginning is common, and so are the tokens before it. -/
theorem failure_margin {source source' : String} {n : Nat} {e : LexError} {p : Position}
    (h : source.toList.take n = source'.toList.take n) (he : (tokenize source).failure = some e)
    (hp : e.position = some p) (hn : p.cursor < n) :
    (tokenize source').tokens = (tokenize source).tokens ∧
      (tokenize source').failure = some ⟨e.fault, some p, some source'⟩ := by
  obtain ⟨ls, rest, hcuts⟩ := exists_cuts source.toList
  rw [tokenize_of_cuts hcuts] at he ⊢
  obtain ⟨c, hc, rfl⟩ := Option.map_eq_some_iff.1 he
  obtain ⟨more, rfl⟩ := List.head?_eq_some_iff.1 hc
  obtain rfl := Option.some.inj hp
  rw [cursor_start_advance] at hn
  have htext : source.toList = (spelled ls ++ [c]) ++ more := by rw [hcuts.text_eq, List.append_assoc]; rfl
  rw [htext] at h
  have hlength : (spelled ls ++ [c]).length ≤ n := by rw [List.length_append, List.length_singleton]; omega
  obtain ⟨more', htext', -⟩ := exists_append_of_take h hlength
  have hcuts' : Cuts source'.toList ls (c :: more') := by
    rw [htext', List.append_assoc]
    exact hcuts.replace_rest more'
  rw [tokenize_of_cuts hcuts']
  exact ⟨rfl, rfl⟩

/-- **Bounded look ahead.** Of two sources that begin alike, every token of the one that ends at
least seven characters before the end of their common beginning is a token of the other, with the
same number. If the one fails within the common beginning, the other gives the same tokens and
fails with the same message at the same position. -/
theorem tokenize_margin {source source' : String} {n : Nat} (h : source.toList.take n = source'.toList.take n) :
    (∀ (k : Nat) (t : Token), (tokenize source).tokens[k]? = some t → t.finish.cursor + 7 ≤ n →
        (tokenize source').tokens[k]? = some t) ∧
      ∀ (e : LexError) (p : Position), (tokenize source).failure = some e → e.position = some p → p.cursor < n →
        (tokenize source').tokens = (tokenize source).tokens ∧
          ∃ e', (tokenize source').failure = some e' ∧ e'.message = e.message ∧ e'.position = e.position := by
  constructor
  · intro k t ht hn
    exact getElem?_tokens_margin h ht hn
  · intro e p he hp hn
    obtain ⟨htokens, hfailure⟩ := failure_margin h he hp hn
    exact ⟨htokens, _, hfailure, rfl, hp.symm⟩

/-- Two sources that are alike for twelve characters: the hash is a token of both, though it has to
be told from a colour, and both fail at the backslash. -/
theorem tokenize_margin_hash :
    "a #12345678\\b".toList.take 12 = "a #12345678\\\"c".toList.take 12 ∧
      (tokenize "a #12345678\\\"c").tokens[2]? = some ⟨.punctuation, "#", ⟨2, 1, 2⟩, ⟨3, 1, 3⟩⟩ ∧
      (tokenize "a #12345678\\\"c").tokens = (tokenize "a #12345678\\b").tokens ∧
      ∃ e, (tokenize "a #12345678\\\"c").failure = some e ∧ e.message = "Can't handle character: \"\\\"" ∧
        e.position = some ⟨11, 1, 11⟩ := by
  have halike : "a #12345678\\b".toList.take 12 = "a #12345678\\\"c".toList.take 12 := by decide
  have hhash : (tokenize "a #12345678\\b").tokens[2]? = some ⟨.punctuation, "#", ⟨2, 1, 2⟩, ⟨3, 1, 3⟩⟩ := by
    decide +kernel
  have hfails : (tokenize "a #12345678\\b").failure =
      some ⟨.unhandled '\\', some ⟨11, 1, 11⟩, some "a #12345678\\b"⟩ := by decide +kernel
  obtain ⟨htokens, hfailure⟩ := tokenize_margin halike
  obtain ⟨hsame, e, he, hmessage, hposition⟩ := hfailure _ _ hfails rfl (by decide)
  exact ⟨halike, htokens 2 _ hhash (by decide), hsame, e, he, hmessage, hposition⟩

/-- The margin cannot be smaller: the seventh character behind a hash tells whether it begins a
colour. -/
example : Lexeme.first? "#1234567".toList = some (.punctuation '#') ∧
    Lexeme.first? "#123456 ".toList = some (.color "123456".toList) := by decide

end Stylesheet
