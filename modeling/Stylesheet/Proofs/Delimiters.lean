import Stylesheet.Proofs.Recognition
import Stylesheet.Proofs.TokenAt
import Mathlib.Algebra.Group.Nat.Even
import Mathlib.Data.List.DropRight
import Mathlib.Order.Bounds.Basic
import Mathlib.Order.Lattice.Nat

/-!
# Where strings and comments end

The reader finds the end of a string with one bit of memory, whether the character before was a
backslash that escapes, and the end of a comment by looking at one or two characters at a time.
What it finds can be said outright with indices of the source.

A string ends at the first quote of its kind with an even number of backslashes right before it
(`ClosesAt`). The proof follows the reader, which takes a backslash and the character behind it at
once: whether the number of backslashes before a later index is even does not depend on such a pair
(`even_finalSlashes_escape`), nor on a character that is no backslash. A comment ends at the first
line feed, or behind the first star that a slash follows, from behind its opener on. Without such an
index, either goes to the end of the source. Main statements: `tokenAt_quote`, `tokenAt_comment`.
-/

namespace Stylesheet

open Lexeme Input

/-! ### Backslashes before a quote -/

/-- How many backslashes a text ends with. -/
def finalSlashes (text : List Char) : Nat := (text.rtakeWhile (· == '\\')).length

theorem finalSlashes_le (text : List Char) : finalSlashes text ≤ text.length :=
  (List.rtakeWhile_suffix _ text).length_le

/-- A character in front counts only if it is a backslash and so is everything behind it. -/
theorem finalSlashes_cons (c : Char) (text : List Char) :
    finalSlashes (c :: text) = finalSlashes text + if c = '\\' ∧ finalSlashes text = text.length then 1 else 0 := by
  simp only [finalSlashes, List.rtakeWhile, List.length_reverse, List.reverse_cons, List.takeWhile_append]
  by_cases hall : (text.reverse.takeWhile (· == '\\')).length = text.length
  · by_cases hc : c = '\\'
    · simp [hall, hc]
    · simp [hall, hc]
  · simp [hall]

theorem finalSlashes_cons_other {c : Char} (hc : c ≠ '\\') (text : List Char) :
    finalSlashes (c :: text) = finalSlashes text := by
  simp [finalSlashes_cons, hc]

/-- A backslash and the character behind it leave the parity as it is, also if that is a backslash. -/
theorem even_finalSlashes_escape (d : Char) (text : List Char) :
    Even (finalSlashes ('\\' :: d :: text)) ↔ Even (finalSlashes text) := by
  have hle := finalSlashes_le text
  by_cases hall : d = '\\' ∧ finalSlashes text = text.length
  · have hnext : finalSlashes (d :: text) = finalSlashes text + 1 := by rw [finalSlashes_cons, if_pos hall]
    have hboth : finalSlashes ('\\' :: d :: text) = finalSlashes text + 2 := by
      rw [finalSlashes_cons, hnext, if_pos ⟨rfl, by rw [hall.2, List.length_cons]⟩]
    rw [hboth, Nat.even_iff, Nat.even_iff]
    omega
  · have hnext : finalSlashes (d :: text) = finalSlashes text := by
      rw [finalSlashes_cons, if_neg hall, Nat.add_zero]
    have hshort : finalSlashes text ≠ (d :: text).length := by
      rw [List.length_cons]
      omega
    rw [finalSlashes_cons, hnext, if_neg fun h => hshort h.2, Nat.add_zero]

namespace Lexeme

/-- Whether a quote at an index ends the string whose opening quote is just before the text. -/
def Closes (quote : Char) (text : List Char) (k : Nat) : Prop :=
  text[k]? = some quote ∧ Even (finalSlashes (text.take k))

variable {quote : Char} {cs : List Char} {k : Nat}

theorem closes_zero {c : Char} : Closes quote (c :: cs) 0 ↔ c = quote := by
  simp [Closes, finalSlashes]

theorem closes_succ {c : Char} (hc : c ≠ '\\') : Closes quote (c :: cs) (k + 1) ↔ Closes quote cs k := by
  rw [Closes, Closes, List.getElem?_cons_succ, List.take_succ_cons, finalSlashes_cons_other hc]

theorem not_closes_escaped {d : Char} : ¬ Closes quote ('\\' :: d :: cs) 1 := by
  rintro ⟨-, heven⟩
  exact Nat.not_even_one heven

theorem closes_escape {d : Char} : Closes quote ('\\' :: d :: cs) (k + 2) ↔ Closes quote cs k := by
  rw [Closes, Closes, List.getElem?_cons_succ, List.getElem?_cons_succ, List.take_succ_cons, List.take_succ_cons,
    even_finalSlashes_escape]

/-- The reader ends a string at a quote that closes it. -/
theorem closes_quotedBody (hclosed : (quotedBody quote cs).2 = true) :
    Closes quote cs (quotedBody quote cs).1.length := by
  fun_induction quotedBody quote cs with
  | case1 => cases hclosed
  | case2 d cs body closed hb ih =>
    rw [hb] at ih
    exact closes_escape.2 (ih hclosed)
  | case3 cs hesc => exact closes_zero.2 rfl
  | case4 c cs hesc hc body closed hb ih =>
    rw [hb] at ih
    by_cases hslash : c = '\\'
    · -- a backslash that escapes nothing is the last character, and the string is not closed
      cases cs with
      | nil =>
        cases hb
        cases hclosed
      | cons d ds => exact absurd rfl (hesc d ds hslash)
    · exact (closes_succ hslash).2 (ih hclosed)

/-- The reader goes past no quote that closes the string. -/
theorem length_quotedBody_le (hquote : quote ≠ '\\') (h : Closes quote cs k) :
    (quotedBody quote cs).1.length ≤ k := by
  fun_induction quotedBody quote cs generalizing k with
  | case1 => exact Nat.zero_le k
  | case2 d cs body closed hb ih =>
    rw [hb] at ih
    obtain _ | _ | k := k
    · exact absurd (closes_zero.1 h).symm hquote
    · exact absurd h not_closes_escaped
    · exact Nat.add_le_add_right (ih (closes_escape.1 h)) 2
  | case3 cs hesc => exact Nat.zero_le k
  | case4 c cs hesc hc body closed hb ih =>
    rw [hb] at ih
    obtain _ | k := k
    · exact absurd (closes_zero.1 h) hc
    · by_cases hslash : c = '\\'
      · cases cs with
        | nil => cases h.1
        | cons d ds => exact absurd rfl (hesc d ds hslash)
      · exact Nat.succ_le_succ (ih ((closes_succ hslash).1 h))

/-- **A string is read up to the first quote that closes it.** -/
theorem quotedBody_of_isLeast (hquote : quote ≠ '\\') (h : IsLeast {k | Closes quote cs k} k) :
    quotedBody quote cs = (cs.take k, true) := by
  obtain ⟨hk, hleast⟩ := h
  have hle := length_quotedBody_le hquote hk
  cases hclosed : (quotedBody quote cs).2 with
  | false =>
    -- it would take all the text, and the quote with it
    have hall := quotedBody_unclosed quote cs hclosed
    have hlt := (List.getElem?_eq_some_iff.1 hk.1).1
    rw [hall] at hle
    omega
  | true =>
    have hlength : (quotedBody quote cs).1.length = k := Nat.le_antisymm hle (hleast (closes_quotedBody hclosed))
    have hbody := (List.prefix_append ..).trans (quotedBody_isPrefix quote cs)
    rw [List.prefix_iff_eq_take, hlength] at hbody
    exact Prod.ext hbody hclosed

theorem quotedBody_of_forall_not (h : ∀ k, ¬ Closes quote cs k) : quotedBody quote cs = (cs, false) := by
  have hclosed : (quotedBody quote cs).2 = false := by
    rw [← Bool.not_eq_true]
    intro hclosed
    exact h _ (closes_quotedBody hclosed)
  exact Prod.ext (quotedBody_unclosed quote cs hclosed) hclosed

end Lexeme

/-! ### Strings -/

/-- Whether the quote at index `j` closes the string that a quote at `i` opens: the backslashes right
before it, counted back to the opening quote, are even in number. -/
def ClosesAt (q : Quote) (text : List Char) (i j : Nat) : Prop :=
  i < j ∧ text[j]? = some q.char ∧ Even (finalSlashes (text.extract (i + 1) j))

section Strings

variable {source : String} {i j : Nat} {q : Quote}

theorem closes_drop_iff {text : List Char} {k : Nat} :
    Closes q.char (text.drop (i + 1)) k ↔ ClosesAt q text i (i + 1 + k) := by
  have hi : i < i + 1 + k := by omega
  rw [Closes, ClosesAt, List.getElem?_drop, List.extract, Nat.add_sub_cancel_left]
  exact ⟨fun h => ⟨hi, h⟩, fun h => h.2⟩

theorem isLeast_closes_drop {text : List Char} {k : Nat} (h : IsLeast {j | ClosesAt q text i j} (i + 1 + k)) :
    IsLeast {k | Closes q.char (text.drop (i + 1)) k} k := by
  constructor
  · exact closes_drop_iff.2 h.1
  · intro k' hk'
    exact Nat.le_of_add_le_add_left (h.2 (closes_drop_iff.1 hk'))

theorem first?_quote {text : List Char} (h : text[i]? = some q.char) {body : List Char} {closed : Bool}
    (hbody : quotedBody q.char (text.drop (i + 1)) = (body, closed)) :
    first? (text.drop i) = some (.quoted q body closed) := by
  rw [drop_of_getElem? h]
  refine first?_cons (Opening.of?_quote q) ?_
  rw [Opening.lexeme, hbody]

theorem tokenAt_of_closesAt (h : source.toList[i]? = some q.char)
    (hj : IsLeast {j | ClosesAt q source.toList i j} j) :
    TokenAt source i q.type (source.toList.extract (i + 1) j) (j + 1) := by
  have hij : i + 1 ≤ j := hj.1.1
  obtain ⟨k, rfl⟩ := Nat.exists_eq_add_of_le hij
  have hlt := (List.getElem?_eq_some_iff.1 hj.1.2.1).1
  have hat := tokenAt_of_first? (first?_quote h (quotedBody_of_isLeast q.char_ne_backslash (isLeast_closes_drop hj)))
  have hlength : i + (Lexeme.quoted q ((source.toList.drop (i + 1)).take k) true).spelling.length = i + 1 + k + 1 := by
    simp only [spelling, List.length_cons, List.length_append, List.length_take, List.length_drop, if_true,
      List.length_nil]
    omega
  rw [hlength] at hat
  rw [List.extract, Nat.add_sub_cancel_left]
  exact hat

theorem tokenAt_of_not_closesAt (h : source.toList[i]? = some q.char) (hj : ∀ j, ¬ ClosesAt q source.toList i j) :
    TokenAt source i q.type (source.toList.drop (i + 1)) source.toList.length := by
  have hlt := (List.getElem?_eq_some_iff.1 h).1
  have hopen : ∀ k, ¬ Closes q.char (source.toList.drop (i + 1)) k := fun k hk => hj _ (closes_drop_iff.1 hk)
  have hat := tokenAt_of_first? (first?_quote h (quotedBody_of_forall_not hopen))
  have hlength : i + (Lexeme.quoted q (source.toList.drop (i + 1)) false).spelling.length = source.toList.length := by
    simp only [spelling, List.length_cons, List.length_append, List.length_drop, Bool.false_eq_true, if_false,
      List.length_nil]
    omega
  rw [hlength] at hat
  exact hat

/-- What the end of a string can depend on: where its quote and the backslashes are. -/
def marks (q : Quote) (text : List Char) : List (Bool × Bool) := text.map fun c => (c == q.char, c == '\\')

theorem getElem?_eq_quote_iff (q : Quote) (text : List Char) (j : Nat) :
    text[j]? = some q.char ↔ (marks q text)[j]?.map Prod.fst = some true := by
  rw [marks, List.getElem?_map, Option.map_map, Option.map_eq_some_iff]
  constructor
  · intro h
    exact ⟨q.char, h, beq_self_eq_true _⟩
  · rintro ⟨c, hc, hq⟩
    rw [hc, beq_iff_eq.1 hq]

theorem finalSlashes_extract (q : Quote) (text : List Char) (a b : Nat) :
    finalSlashes (text.extract a b) = (((marks q text).extract a b).rtakeWhile Prod.snd).length := by
  simp only [finalSlashes, marks, List.rtakeWhile, List.length_reverse, List.extract, ← List.map_drop,
    ← List.map_take, ← List.map_reverse, List.takeWhile_map, List.length_map]
  rfl

theorem closesAt_congr {text text' : List Char} (h : marks q text = marks q text') :
    ClosesAt q text i j ↔ ClosesAt q text' i j := by
  rw [ClosesAt, ClosesAt, getElem?_eq_quote_iff, getElem?_eq_quote_iff, finalSlashes_extract q,
    finalSlashes_extract q, h]

/-- **Where a string ends.** Behind a quote it goes to the first quote of the same kind with an even
number of backslashes before it, which is not part of the value, and without one to the end of the
source; the backslashes stay in the value. No other character matters: in a source with the same
quotes of this kind and the same backslashes a string ends at the same index. -/
theorem tokenAt_quote (h : source.toList[i]? = some q.char) :
    (∀ j, IsLeast {j | ClosesAt q source.toList i j} j →
        TokenAt source i q.type (source.toList.extract (i + 1) j) (j + 1)) ∧
      ((∀ j, ¬ ClosesAt q source.toList i j) →
        TokenAt source i q.type (source.toList.drop (i + 1)) source.toList.length) ∧
      ∀ source' : String, marks q source'.toList = marks q source.toList → ∀ value j,
        TokenAt source i q.type value j → ∃ value', TokenAt source' i q.type value' j := by
  refine ⟨fun j hj => tokenAt_of_closesAt h hj, fun hj => tokenAt_of_not_closesAt h hj, ?_⟩
  intro source' hmarks value j hat
  have h' : source'.toList[i]? = some q.char := by rwa [getElem?_eq_quote_iff, hmarks, ← getElem?_eq_quote_iff]
  have hends : ∀ k, ClosesAt q source'.toList i k ↔ ClosesAt q source.toList i k := fun k => closesAt_congr hmarks
  by_cases hclosed : ∃ k, ClosesAt q source.toList i k
  · have hleast : IsLeast {k | ClosesAt q source.toList i k} (sInf {k | ClosesAt q source.toList i k}) :=
      ⟨Nat.sInf_mem hclosed, fun _ => Nat.sInf_le⟩
    have hset : {k | ClosesAt q source'.toList i k} = {k | ClosesAt q source.toList i k} := Set.ext hends
    obtain ⟨-, -, rfl⟩ := hat.unique (tokenAt_of_closesAt h hleast)
    exact ⟨_, tokenAt_of_closesAt h' (hset ▸ hleast)⟩
  · have hnone : ∀ k, ¬ ClosesAt q source.toList i k := fun k hk => hclosed ⟨k, hk⟩
    have hlength : source'.toList.length = source.toList.length := by
      simpa [marks] using congrArg List.length hmarks
    obtain ⟨-, -, rfl⟩ := hat.unique (tokenAt_of_not_closesAt h hnone)
    rw [← hlength]
    exact ⟨_, tokenAt_of_not_closesAt h' fun k hk => hnone k ((hends k).1 hk)⟩

/-- An escaped quote, and then a closing one behind an escaped backslash. -/
theorem tokenAt_quote_escapes :
    "\"a\\\"\\\\\"b".toList[0]? = some Quote.double.char ∧
      IsLeast {j | ClosesAt .double "\"a\\\"\\\\\"b".toList 0 j} 6 ∧
      TokenAt "\"a\\\"\\\\\"b" 0 .stringDouble ['a', '\\', '"', '\\', '\\'] 7 := by
  have hleast : IsLeast {j | ClosesAt .double "\"a\\\"\\\\\"b".toList 0 j} 6 := by
    refine ⟨⟨by decide, rfl, 1, rfl⟩, ?_⟩
    rintro k ⟨hpos, hquote, heven⟩
    by_contra hlt
    have hk : k = 1 ∨ k = 2 ∨ k = 3 ∨ k = 4 ∨ k = 5 := by omega
    rcases hk with rfl | rfl | rfl | rfl | rfl
    case inr.inr.inl => exact Nat.not_even_one heven
    all_goals exact absurd hquote (by decide)
  exact ⟨rfl, hleast, (tokenAt_quote rfl).1 6 hleast⟩

end Strings

/-! ### Comments -/

section Comments

variable {text : List Char} {i j k : Nat}

/-- A piece of a stretch of a text stands at some index of the text. -/
theorem exists_extract_of_infix {piece : List Char} (hne : piece ≠ []) (h : piece <:+: text.extract i j) :
    ∃ k, i ≤ k ∧ k + piece.length ≤ j ∧ text.extract k (k + piece.length) = piece := by
  obtain ⟨a, b, hab⟩ := h
  have hpos := List.length_pos_iff.2 hne
  have hlength := congrArg List.length hab
  simp only [List.length_append, List.extract, List.length_take] at hlength
  have htext : text.drop i = a ++ (piece ++ (b ++ (text.drop i).drop (j - i))) := by
    rw [← List.append_assoc, ← List.append_assoc, hab, List.take_append_drop]
  refine ⟨i + a.length, Nat.le_add_right _ _, by omega, ?_⟩
  rw [List.extract, ← List.drop_drop, htext, List.drop_left, Nat.add_sub_cancel_left, List.take_left]

theorem le_length_of_extract {c d : Char} (h : text.extract k (k + 2) = [c, d]) : k + 2 ≤ text.length := by
  have hlength := congrArg List.length h
  simp only [List.extract, List.length_take, List.length_drop, List.length_cons, List.length_nil] at hlength
  omega

variable {source : String}

/-- A line comment ends at a line feed or at the end of the source, with no line feed before. -/
theorem tokenAt_lineComment (h : source.toList.extract i (i + 2) = ['/', '/']) (hij : i + 2 ≤ j)
    (hj : j ≤ source.toList.length) (hfeed : ∀ k, i + 2 ≤ k → k < j → source.toList[k]? ≠ some '\n')
    (hstop : ∀ c ∈ source.toList[j]?, c = '\n') :
    TokenAt source i .comment (source.toList.extract (i + 2) j) j := by
  refine tokenAt_of_ends (l := .lineComment (source.toList.extract (i + 2) j)) (by omega) hj ?_ ?_ ?_
  · rw [← extract_append_extract _ (Nat.le_add_right i 2) hij, h]
    rfl
  · intro hin
    obtain ⟨n, hn⟩ := List.mem_iff_getElem?.1 hin
    rw [List.extract, List.getElem?_take, List.getElem?_drop] at hn
    split at hn
    · next hlt => exact hfeed (i + 2 + n) (Nat.le_add_right _ _) (by omega) hn
    · cases hn
  · rw [← List.head?_drop] at hstop
    exact hstop

theorem tokenAt_blockComment (h : source.toList.extract i (i + 2) = ['/', '*']) (hij : i + 2 ≤ j)
    (hclose : source.toList.extract j (j + 2) = ['*', '/'])
    (hfirst : ∀ k, i + 2 ≤ k → k < j → source.toList.extract k (k + 2) ≠ ['*', '/']) :
    TokenAt source i .comment (source.toList.extract (i + 2) j) (j + 2) := by
  refine tokenAt_of_ends (l := .blockComment (source.toList.extract (i + 2) j) true) (by omega)
    (le_length_of_extract hclose) ?_ ?_ ?_
  · rw [← extract_append_extract _ (Nat.le_add_right i 2) (by omega),
      ← extract_append_extract _ hij (Nat.le_add_right j 2), h, hclose]
    rfl
  · intro hin
    obtain ⟨k, hk, hkj, hat⟩ := exists_extract_of_infix (List.cons_ne_nil _ _) hin
    have hlt : k < j := by
      rw [List.length_cons] at hkj
      omega
    exact hfirst k hk hlt hat
  · exact fun hopen => Bool.noConfusion hopen

theorem tokenAt_blockComment_open (h : source.toList.extract i (i + 2) = ['/', '*'])
    (hnone : ∀ k, i + 2 ≤ k → source.toList.extract k (k + 2) ≠ ['*', '/']) :
    TokenAt source i .comment (source.toList.drop (i + 2)) source.toList.length := by
  have hlength := le_length_of_extract h
  refine tokenAt_of_ends (l := .blockComment (source.toList.drop (i + 2)) false) (by omega) (Nat.le_refl _) ?_ ?_ ?_
  · rw [← extract_append_extract _ (Nat.le_add_right i 2) (by omega), extract_length, h]
    exact congrArg (fun cs => '/' :: '*' :: cs) (List.append_nil _)
  · rw [← extract_length]
    intro hin
    obtain ⟨k, hk, -, hat⟩ := exists_extract_of_infix (List.cons_ne_nil _ _) hin
    exact hnone k hk hat
  · exact fun _ => List.drop_length

/-- The value of a block comment does not hold its closer. -/
theorem not_infix_of_tokenAt (h : source.toList.extract i (i + 2) = ['/', '*']) {value : List Char}
    (hat : TokenAt source i .comment value j) : ¬ ['*', '/'] <:+: value := by
  have hdrop : source.toList.drop i = '/' :: '*' :: source.toList.drop (i + 2) := by
    rw [← extract_append_drop _ (Nat.le_add_right i 2), h]
    rfl
  have hfirst : first? (source.toList.drop i) =
      some (Opening.blockComment.lexeme '/' ('*' :: source.toList.drop (i + 2))) := by
    rw [hdrop]
    exact first?_cons rfl rfl
  obtain ⟨-, rfl, -⟩ := hat.unique (tokenAt_of_first? hfirst)
  exact not_infix_blockBody _

end Comments

/-- **Where a comment ends.** Behind two slashes it goes to the first line feed, which is not part of
it, and behind slash and star to the first star that a slash follows, which close it; without one,
to the end of the source. The value is all that stands between, so the slash of the opener does not
close a comment, the stars before the closer stay in the value, and the last character of an
unclosed comment too. -/
theorem tokenAt_comment (source : String) (i : Nat) :
    (source.toList.extract i (i + 2) = ['/', '/'] →
      (∀ j, IsLeast {j | i + 2 ≤ j ∧ source.toList[j]? = some '\n'} j →
        TokenAt source i .comment (source.toList.extract (i + 2) j) j) ∧
      ((∀ j, i + 2 ≤ j → source.toList[j]? ≠ some '\n') →
        TokenAt source i .comment (source.toList.drop (i + 2)) source.toList.length)) ∧
    (source.toList.extract i (i + 2) = ['/', '*'] →
      (∀ j, IsLeast {j | i + 2 ≤ j ∧ source.toList.extract j (j + 2) = ['*', '/']} j →
        TokenAt source i .comment (source.toList.extract (i + 2) j) (j + 2)) ∧
      ((∀ j, i + 2 ≤ j → source.toList.extract j (j + 2) ≠ ['*', '/']) →
        TokenAt source i .comment (source.toList.drop (i + 2)) source.toList.length) ∧
      ∀ value j, TokenAt source i .comment value j → ¬ ['*', '/'] <:+: value) := by
  constructor
  · intro h
    constructor
    · rintro j ⟨⟨hij, hfeed⟩, hleast⟩
      have hj := (List.getElem?_eq_some_iff.1 hfeed).1
      refine tokenAt_lineComment h hij (Nat.le_of_lt hj) ?_ ?_
      · intro k hk hkj hat
        exact Nat.not_le_of_lt hkj (hleast ⟨hk, hat⟩)
      · rw [hfeed]
        rintro c ⟨⟩
        rfl
    · intro hnone
      rw [← extract_length]
      refine tokenAt_lineComment h (le_length_of_extract h) (Nat.le_refl _) (fun k hk _ => hnone k hk) ?_
      rw [List.getElem?_length]
      rintro c ⟨⟩
  · intro h
    refine ⟨?_, tokenAt_blockComment_open h, ?_⟩
    · rintro j ⟨⟨hij, hclose⟩, hleast⟩
      refine tokenAt_blockComment h hij hclose ?_
      intro k hk hkj hat
      exact Nat.not_le_of_lt hkj (hleast ⟨hk, hat⟩)
    · intro value j hat
      exact not_infix_of_tokenAt h hat

/-- The slash of the opener and a star do not close a comment, and a star before the closer is part of
the value. -/
theorem tokenAt_comment_stars :
    "/*/**/".toList.extract 0 2 = ['/', '*'] ∧
      IsLeast {j | 0 + 2 ≤ j ∧ "/*/**/".toList.extract j (j + 2) = ['*', '/']} 4 ∧
      TokenAt "/*/**/" 0 .comment ['/', '*'] 6 := by
  have hleast : IsLeast {j | 0 + 2 ≤ j ∧ "/*/**/".toList.extract j (j + 2) = ['*', '/']} 4 := by
    refine ⟨⟨by decide, rfl⟩, ?_⟩
    rintro k ⟨hk, hclose⟩
    by_contra hlt
    have hk : k = 2 ∨ k = 3 := by omega
    rcases hk with rfl | rfl <;> exact absurd hclose (by decide)
  exact ⟨rfl, hleast, ((tokenAt_comment "/*/**/" 0).2 rfl).1 4 hleast⟩

end Stylesheet
