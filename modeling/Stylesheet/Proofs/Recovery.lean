import Stylesheet.Proofs.Tiling

/-!
# The source from its tokens

A token does not hold its delimiters, but its type and its width tell them: a string is two
characters wider than its value if it is closed and one if it is not, and a block comment is four
characters wider if it is closed. Only an open block comment cannot be told from a line comment,
both of which are two characters wider (`Token.lexeme`, `lexeme_toToken`).

An open comment is the last token of its source. So the tokens of a source that can be read to its
end determine it, up to one character (`eq_or_commentTwins`).
-/

namespace Stylesheet

open Lexeme

/-! ### The lexeme from its token -/

/-- The lexeme that makes a token, judged by type, value and width. A comment that is not wide
enough for a closed block is taken for a line. -/
def Token.lexeme (t : Token) : Lexeme :=
  let value := t.value.toList
  let width := t.finish.cursor - t.start.cursor
  match t.type with
  | .space => .space value
  | .comment => if width = value.length + 4 then .blockComment value true else .lineComment value
  | .number => .number value
  | .colorHex => .color value
  | .punctuation => .punctuation (value.headD '.')
  | .operator => .operator value
  | .identifier => .identifier value
  | .stringDouble => .quoted .double value (width = value.length + 2)
  | .stringSingle => .quoted .single value (width = value.length + 2)
  | .atRule => .atRule value
  | .variableName => .variableName value

namespace Lexeme

/-- A lexeme as its token tells it: an open block comment is the same as a line comment. -/
def apparent : Lexeme → Lexeme
  | .blockComment body false => .lineComment body
  | l => l

theorem width_toToken (l : Lexeme) (p : Position) :
    (l.toToken p).finish.cursor - (l.toToken p).start.cursor = l.spelling.length := by
  simp only [toToken, Position.advance_cursor]
  omega

/-- **A token tells its lexeme**, but for an open block comment. -/
theorem lexeme_toToken (l : Lexeme) (p : Position) : (l.toToken p).lexeme = l.apparent := by
  have hvalue : (l.toToken p).value.toList = l.value := String.toList_ofList
  unfold Token.lexeme
  rw [hvalue, width_toToken]
  cases l with
  | lineComment body =>
    have hwidth : ¬ ((Lexeme.lineComment body).spelling.length : Int) = body.length + 4 := by
      simp only [spelling, List.length_cons]
      omega
    exact if_neg hwidth
  | blockComment body closed =>
    cases closed with
    | true =>
      have hwidth : ((Lexeme.blockComment body true).spelling.length : Int) = body.length + 4 := by
        simp only [spelling, if_true, List.length_cons, List.length_append, List.length_nil]
        omega
      exact if_pos hwidth
    | false =>
      have hwidth : ¬ ((Lexeme.blockComment body false).spelling.length : Int) = body.length + 4 := by
        simp only [spelling, Bool.false_eq_true, if_false, List.append_nil, List.length_cons]
        omega
      exact if_neg hwidth
  | quoted q body closed =>
    have hwidth : decide (((Lexeme.quoted q body closed).spelling.length : Int) = body.length + 2) = closed := by
      cases closed with
      | true =>
        simp only [spelling, if_true, List.length_cons, List.length_append, List.length_nil, decide_eq_true_eq]
        omega
      | false =>
        simp only [spelling, Bool.false_eq_true, if_false, List.append_nil, List.length_cons, decide_eq_false_iff_not]
        omega
    cases q with
    | double => exact congrArg (Lexeme.quoted .double body) hwidth
    | single => exact congrArg (Lexeme.quoted .single body) hwidth
  | _ => rfl

theorem map_lexeme_toTokens (p : Position) (ls : List Lexeme) :
    (toTokens p ls).map Token.lexeme = ls.map apparent := by
  induction ls generalizing p with
  | nil => rfl
  | cons l ls ih => rw [toTokens, List.map_cons, List.map_cons, lexeme_toToken, ih]

theorem apparent_eq_self {l : Lexeme} (h : ∀ body, l ≠ .blockComment body false) : l.apparent = l := by
  unfold apparent
  split
  · next body => exact absurd rfl (h body)
  · rfl

/-- Lexemes that appear the same are the same, or a line comment and an open block comment. -/
theorem eq_or_comment_of_apparent_eq {l l' : Lexeme} (h : l.apparent = l'.apparent) :
    l = l' ∨ (∃ body, l = .lineComment body ∧ l' = .blockComment body false) ∨
      ∃ body, l = .blockComment body false ∧ l' = .lineComment body := by
  by_cases hl : ∃ body, l = .blockComment body false
  · obtain ⟨body, rfl⟩ := hl
    by_cases hl' : ∃ body', l' = .blockComment body' false
    · obtain ⟨body', rfl⟩ := hl'
      obtain rfl := Lexeme.lineComment.inj h
      exact .inl rfl
    · rw [apparent_eq_self fun body' hb => hl' ⟨body', hb⟩] at h
      exact .inr (.inr ⟨body, rfl, h.symm⟩)
  · rw [apparent_eq_self fun body hb => hl ⟨body, hb⟩] at h
    by_cases hl' : ∃ body', l' = .blockComment body' false
    · obtain ⟨body', rfl⟩ := hl'
      exact .inr (.inl ⟨body', h, rfl⟩)
    · rw [apparent_eq_self fun body' hb => hl' ⟨body', hb⟩] at h
      exact .inl h

/-! ### The lexemes from their tokens -/

/-- Nothing follows a lexeme that is not closed. -/
theorem Cuts.eq_nil_of_not_closed {l : Lexeme} {ls : List Lexeme} {text rest : List Char}
    (h : Cuts text (l :: ls) rest) (hl : l.closed = false) : ls = [] := by
  cases h with
  | @read _ _ more _ _ hread htext hcuts =>
    have hall := spelling_eq_of_not_closed hread hl
    rw [← hall] at htext
    obtain rfl : more = [] := List.append_right_eq_self.1 htext.symm
    cases hcuts with
    | stop => rfl
    | read hnone => cases hnone

/-- **Lexemes of whole texts that appear the same** are the same, but for the kind of a comment that
ends the text. -/
theorem Cuts.eq_or_last_comment {ls ls' : List Lexeme} {text text' : List Char} (h : Cuts text ls [])
    (h' : Cuts text' ls' []) (hsame : ls.map apparent = ls'.map apparent) :
    ls = ls' ∨ ∃ before body,
      ls = before ++ [.lineComment body] ∧ ls' = before ++ [.blockComment body false] ∨
        ls = before ++ [.blockComment body false] ∧ ls' = before ++ [.lineComment body] := by
  induction ls generalizing text text' ls' with
  | nil => exact .inl (List.map_eq_nil_iff.1 hsame.symm).symm
  | cons l ls ih =>
    cases ls' with
    | nil => cases hsame
    | cons l' ls' =>
      rw [List.map_cons, List.map_cons, List.cons.injEq] at hsame
      obtain ⟨hfirst, hmore⟩ := hsame
      rcases eq_or_comment_of_apparent_eq hfirst with rfl | ⟨body, rfl, rfl⟩ | ⟨body, rfl, rfl⟩
      · cases h with
        | read _ _ hcuts =>
          cases h' with
          | read _ _ hcuts' =>
            rcases ih hcuts hcuts' hmore with rfl | ⟨before, body, htwins⟩
            · exact .inl rfl
            · refine .inr ⟨l :: before, body, ?_⟩
              rcases htwins with ⟨rfl, rfl⟩ | ⟨rfl, rfl⟩
              · exact .inl ⟨rfl, rfl⟩
              · exact .inr ⟨rfl, rfl⟩
      · obtain rfl := h'.eq_nil_of_not_closed rfl
        obtain rfl := List.map_eq_nil_iff.1 hmore
        exact .inr ⟨[], body, .inl ⟨rfl, rfl⟩⟩
      · obtain rfl := h.eq_nil_of_not_closed rfl
        obtain rfl := List.map_eq_nil_iff.1 hmore.symm
        exact .inr ⟨[], body, .inr ⟨rfl, rfl⟩⟩

end Lexeme

/-! ### The source -/

/-- `CommentTwins t text text'`: the token `t` is a comment that lacks a closer, and the texts are
the same but for the character behind its slash. In `text` that is another slash, in `text'` a
star. -/
structure CommentTwins (t : Token) (text text' : List Char) : Prop where
  type : t.type = .comment
  width : t.finish.cursor - t.start.cursor = t.value.length + 2
  length : text.length = text'.length
  differ : ∃ k : Nat, t.start.cursor = k ∧ text[k + 1]? = some '/' ∧ text'[k + 1]? = some '*' ∧
    ∀ i, i ≠ k + 1 → text[i]? = text'[i]?

/-- A line comment and an open block comment behind the same text make twins, with one token. -/
theorem commentTwins_comment (before body : List Char) :
    CommentTwins ((Lexeme.lineComment body).toToken (Position.start.advance before))
      (before ++ (Lexeme.lineComment body).spelling) (before ++ (Lexeme.blockComment body false).spelling) := by
  have hline : (Lexeme.lineComment body).spelling = '/' :: '/' :: body := rfl
  have hblock : (Lexeme.blockComment body false).spelling = '/' :: '*' :: body := by simp [spelling]
  rw [hline, hblock]
  constructor
  case type => rfl
  case width =>
    have hvalue : ((Lexeme.lineComment body).toToken (Position.start.advance before)).value.length = body.length :=
      String.length_ofList
    rw [width_toToken, hline, hvalue, List.length_cons, List.length_cons]
    omega
  case length => simp
  case differ =>
    have hbehind : ∀ (c : Char) (k : Nat), (before ++ '/' :: c :: body)[before.length + k]? = ('/' :: c :: body)[k]? := by
      intro c k
      rw [List.getElem?_append_right (Nat.le_add_right _ _), Nat.add_sub_cancel_left]
    refine ⟨before.length, cursor_start_advance before, hbehind '/' 1, hbehind '*' 1, ?_⟩
    intro i hi
    rcases Nat.lt_or_ge i before.length with hlt | hge
    · rw [List.getElem?_append_left hlt, List.getElem?_append_left hlt]
    · obtain ⟨k, rfl⟩ := Nat.exists_eq_add_of_le hge
      rw [hbehind, hbehind]
      rcases k with - | - | k
      · rfl
      · exact absurd rfl hi
      · rfl

/-- The last token of lexemes that end with a line comment. -/
theorem getLast?_toTokens_comment (before : List Lexeme) (body : List Char) :
    (toTokens .start (before ++ [.lineComment body])).getLast? =
      some ((Lexeme.lineComment body).toToken (Position.start.advance (spelled before))) :=
  getLast?_toTokens_concat .start before _

/-- **Tokens determine the source.** If two sources can be read to their ends and give the same
tokens, they are the same, or the last token is a comment without a closer and they differ only in
the character behind its slash: one has a line comment there, the other a block comment. -/
theorem eq_or_commentTwins {source source' : String} {ts : List Token}
    (h : (TokenStream.ofSource source).all.1 = .ok ts) (h' : (TokenStream.ofSource source').all.1 = .ok ts) :
    source = source' ∨ ∃ t, ts.getLast? = some t ∧
      (CommentTwins t source.toList source'.toList ∨ CommentTwins t source'.toList source.toList) := by
  obtain ⟨ls, hcuts, hts⟩ := TokenStream.exists_cuts_of_all h
  obtain ⟨ls', hcuts', hts'⟩ := TokenStream.exists_cuts_of_all h'
  have hsame : ls.map apparent = ls'.map apparent := by
    rw [← map_lexeme_toTokens .start, ← map_lexeme_toTokens .start, hts, hts']
  have htext : source.toList = spelled ls := hcuts.text_eq.trans (List.append_nil _)
  have htext' : source'.toList = spelled ls' := hcuts'.text_eq.trans (List.append_nil _)
  have hspelled : ∀ before l, spelled (before ++ [l]) = spelled before ++ l.spelling := by
    intro before l
    rw [spelled_append, spelled_singleton]
  rcases hcuts.eq_or_last_comment hcuts' hsame with rfl | ⟨before, body, htwins⟩
  · left
    exact String.toList_inj.1 (htext.trans htext'.symm)
  · right
    rcases htwins with ⟨rfl, rfl⟩ | ⟨rfl, rfl⟩
    · refine ⟨_, hts ▸ getLast?_toTokens_comment before body, .inl ?_⟩
      rw [htext, htext', hspelled, hspelled]
      exact commentTwins_comment (spelled before) body
    · refine ⟨_, hts' ▸ getLast?_toTokens_comment before body, .inr ?_⟩
      rw [htext, htext', hspelled, hspelled]
      exact commentTwins_comment (spelled before) body

/-- A line comment at the end of a source, and an open block comment in its place. -/
theorem eq_or_commentTwins_open :
    (TokenStream.ofSource "a//b").all.1 =
        .ok [⟨.identifier, "a", ⟨0, 1, 0⟩, ⟨1, 1, 1⟩⟩, ⟨.comment, "b", ⟨1, 1, 1⟩, ⟨4, 1, 4⟩⟩] ∧
      (TokenStream.ofSource "a/*b").all.1 =
        .ok [⟨.identifier, "a", ⟨0, 1, 0⟩, ⟨1, 1, 1⟩⟩, ⟨.comment, "b", ⟨1, 1, 1⟩, ⟨4, 1, 4⟩⟩] ∧
      ∃ t, [⟨.identifier, "a", ⟨0, 1, 0⟩, ⟨1, 1, 1⟩⟩, ⟨.comment, "b", ⟨1, 1, 1⟩, ⟨4, 1, 4⟩⟩].getLast? = some t ∧
        (CommentTwins t "a//b".toList "a/*b".toList ∨ CommentTwins t "a/*b".toList "a//b".toList) := by
  have hline : (TokenStream.ofSource "a//b").all.1 =
      .ok [⟨.identifier, "a", ⟨0, 1, 0⟩, ⟨1, 1, 1⟩⟩, ⟨.comment, "b", ⟨1, 1, 1⟩, ⟨4, 1, 4⟩⟩] := by
    decide +kernel
  have hblock : (TokenStream.ofSource "a/*b").all.1 =
      .ok [⟨.identifier, "a", ⟨0, 1, 0⟩, ⟨1, 1, 1⟩⟩, ⟨.comment, "b", ⟨1, 1, 1⟩, ⟨4, 1, 4⟩⟩] := by
    decide +kernel
  have hne : "a//b" ≠ "a/*b" := by decide
  exact ⟨hline, hblock, (eq_or_commentTwins hline hblock).resolve_left hne⟩

end Stylesheet
