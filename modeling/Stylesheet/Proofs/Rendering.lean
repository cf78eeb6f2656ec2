import Stylesheet.Proofs.JsonDump
import Stylesheet.Proofs.TextDump
import Stylesheet.Proofs.TokenAt

/-!
# Dumps under the limit on digits

Tokens that are given from outside may have integers of any size, but an integer with too many digits is not
written. So a dump is refused if it is to show such an integer, and else it is the dump that is written without
regard to the limit (`Format.yields_render`). This is proved along the writing of a dump: a single integer yields its
numeral (`yields_writeInteger`), and what is written in several steps yields what the steps yield
(`Yields.bind`, `Yields.mapM`).

What the two formats tell is then known of every dump that is not refused. A JSON dump tells the tokens
(`render_json_tells`), and a text dump, with one line for each, tells all but their cursors
(`render_text_tells`). Above the limit there is no dump to tell anything (`render_json_too_long`,
`render_text_too_long`).

The positions in a text are bounded by its length, so its tokens are dumped in either format
(`Format.render_filter_tokenize`).
-/

namespace Stylesheet

namespace Text

/-! ### Writing what has no long integer -/

/-- `Writable n`: an integer has no more digits than are written. -/
def Writable (n : Int) : Prop := n.natAbs < 10 ^ maxDigits

theorem one_lt_limit : 1 < 10 ^ maxDigits := Nat.one_lt_pow (by decide) (by decide)

theorem not_writable_limit : ¬ Writable (10 ^ maxDigits : Nat) := by
  rw [Writable, Int.natAbs_natCast]
  exact Nat.lt_irrefl _

/-- `Yields p r a`: the result `r` is `a` if `p` holds, and if not it is the refusal of a long integer. -/
structure Yields {α : Type} (p : Prop) (r : Except Unwritable α) (a : α) : Prop where
  /-- Nothing is refused if it holds. -/
  written : p → r = .ok a
  /-- Only if it holds is there a result. -/
  refused : ¬ p → r = .error .longInteger

section

variable {α β : Type} {p q : Prop} {r : Except Unwritable α} {a : α} {b : β}

theorem yields_pure (a : α) : Yields True (pure a) a := ⟨fun _ => rfl, fun h => absurd trivial h⟩

theorem Yields.congr (h : Yields p r a) (hpq : p ↔ q) : Yields q r a := ⟨h.written ∘ hpq.2, h.refused ∘ mt hpq.1⟩

/-- Of two steps, the second one depends on what the first one yields. -/
theorem Yields.bind {k : α → Except Unwritable β} (h : Yields p r a) (hk : Yields q (k a) b) :
    Yields (p ∧ q) (r >>= k) b where
  written hpq := by
    rw [h.written hpq.1]
    exact hk.written hpq.2
  refused hpq := by
    by_cases hp : p
    · rw [h.written hp]
      exact hk.refused fun hq => hpq ⟨hp, hq⟩
    · rw [h.refused hp]
      rfl

theorem Yields.map (h : Yields p r a) (f : α → β) : Yields p (r >>= fun x => pure (f x)) (f a) :=
  (h.bind (yields_pure (f a))).congr (and_iff_left trivial)

/-- A list is written if all its items are. -/
theorem Yields.mapM {P : α → Prop} {g : α → Except Unwritable β} {f : α → β} {xs : List α}
    (h : ∀ x ∈ xs, Yields (P x) (g x) (f x)) : Yields (∀ x ∈ xs, P x) (xs.mapM g) (xs.map f) := by
  induction xs with
  | nil => exact (yields_pure []).congr (by simp)
  | cons x xs ih =>
    rw [List.forall_mem_cons] at h
    rw [List.mapM_cons, List.map_cons]
    exact (h.1.bind ((ih h.2).map _)).congr List.forall_mem_cons.symm

theorem Yields.eq_ok_iff (h : Yields p r a) {x : α} : r = .ok x ↔ p ∧ a = x := by
  by_cases hp : p
  · rw [h.written hp, Except.ok.injEq, and_iff_right hp]
  · simp [h.refused hp, hp]

end

/-- **An integer is written exactly if it is below the limit in size.** -/
theorem yields_writeInteger (n : Int) : Yields (Writable n) (writeInteger n) (integer n) := by
  have hdigits : (Nat.toDigits 10 n.natAbs).length ≤ maxDigits ↔ Writable n :=
    Nat.length_toDigits_le_iff (by omega) (by decide)
  unfold writeInteger
  exact ⟨fun h => if_neg (Nat.not_lt.2 (hdigits.2 h)), fun h => if_pos (Nat.not_le.1 (mt hdigits.1 h))⟩

end Text

open Text (Writable Yields yields_pure yields_writeInteger)

/-! ### The two formats -/

/-- The integers that the dump of a token shows. -/
def Format.integers : Format → Token → List Int
  | .text, t => [t.start.line, t.start.column, t.finish.line, t.finish.column]
  | .json, t =>
    [t.start.cursor, t.start.line, t.start.column, t.finish.cursor, t.finish.line, t.finish.column]

theorem Token.yields_line (t : Token) :
    Yields (∀ n ∈ Format.text.integers t, Writable n) (t.line Text.writeInteger) t.plainLine := by
  have hspan : Yields (∀ n ∈ Format.text.integers t, Writable n) (t.span Text.writeInteger) t.plainSpan := by
    have hinteger := yields_writeInteger
    refine ((hinteger t.start.line).bind ((hinteger t.start.column).bind ((hinteger t.finish.line).bind
      ((hinteger t.finish.column).map _)))).congr ?_
    simp [Format.integers]
  exact hspan.map _

namespace Json

/-- The integers in a value. -/
def integers : Json → List Int
  | .string _ => []
  | .integer n => [n]
  | .array items => items.flatMap integers
  | .object members => members.flatMap fun m => m.2.integers
termination_by j => sizeOf j
decreasing_by
  · exact sizeOf_lt_of_item ‹_›
  · exact sizeOf_lt_of_member ‹_›

theorem yields_write (j : Json) (depth : Nat) :
    Yields (∀ n ∈ j.integers, Writable n) (j.write Text.writeInteger depth) (j.plain depth) := by
  induction j using ind generalizing depth with
  | string text =>
    rw [write]
    exact (yields_pure _).congr (by simp [integers])
  | integer n =>
    rw [write]
    exact (yields_writeInteger n).congr (by simp [integers])
  | array items ih =>
    rw [write, writeItems_eq_mapM, plain_array]
    have hitems := Yields.mapM fun j hj => ih j hj (depth + 1)
    refine (hitems.map _).congr ?_
    rw [integers]
    simp only [List.forall_mem_flatMap]
  | object members ih =>
    rw [write, writeMembers_eq_mapM, plain_object]
    have hmember : ∀ m ∈ members, Yields (∀ n ∈ m.2.integers, Writable n)
        (writeMember Text.writeInteger (depth + 1) m) (plainMember (depth + 1) m) := by
      intro m hm
      exact (ih m hm (depth + 1)).map _
    refine ((Yields.mapM hmember).map _).congr ?_
    rw [integers]
    simp only [List.forall_mem_flatMap]

end Json

theorem Token.integers_toJson (t : Token) : t.toJson.integers = Format.json.integers t := by
  simp [Json.integers, toJson, Position.toJson, Format.integers]

/-- **A dump is refused exactly if it is to show a long integer**, and else it is the dump without regard to
the limit. -/
theorem Format.yields_render (format : Format) (tokens : List Token) :
    Yields (∀ t ∈ tokens, ∀ n ∈ format.integers t, Writable n) (format.render tokens) (format.dump tokens) := by
  cases format with
  | text =>
    have hlines := Yields.mapM fun t (_ : t ∈ tokens) => t.yields_line
    rw [dump, textDump_eq_join]
    exact hlines.map _
  | json =>
    refine (((Json.array (tokens.map Token.toJson)).yields_write 0).map _).congr ?_
    rw [Json.integers]
    simp only [List.forall_mem_flatMap, List.forall_mem_map, Token.integers_toJson]

/-! ### What dumps tell -/

/-- **A JSON dump tells the tokens, all of them and in their order.** Tokens whose integers are below the limit in
size have a dump. It holds ASCII only. It is one document, which ends with the bracket that closes its list, and a
line feed behind it. Read as JSON, the document is the list of the tokens with their types, values and positions.
No other tokens have this dump. -/
theorem render_json_tells {tokens : List Token}
    (h : ∀ t ∈ tokens, ∀ n ∈ Format.json.integers t, n.natAbs < 10 ^ Text.maxDigits) :
    ∃ dump, Format.json.render tokens = .ok dump ∧
      (∀ c ∈ dump.toList, c.toNat < 0x80) ∧
      (∃ document, dump = document ++ "\n" ∧ document.toList.getLast? = some ']' ∧
        JsonText.read document = some (.array (tokens.map Token.described))) ∧
      ∀ others, Format.json.render others = .ok dump ↔ others = tokens := by
  have hdump := (Format.json.yields_render tokens).written h
  refine ⟨jsonDump tokens, hdump, isAscii_jsonDump tokens, exists_document tokens,
    fun others => ⟨fun hothers => ?_, ?_⟩⟩
  · exact jsonDump_inj.1 ((Format.json.yields_render others).eq_ok_iff.1 hothers).2
  · rintro rfl
    exact hdump

/-- The largest integer that is written and the least one are read back. -/
theorem render_json_largest :
    let largest : Int := (10 ^ Text.maxDigits - 1 : Nat)
    let tokens : List Token := [⟨.space, "\n", ⟨largest, 1, -largest⟩, ⟨1, 1, 0⟩⟩]
    (∀ t ∈ tokens, ∀ n ∈ Format.json.integers t, n.natAbs < 10 ^ Text.maxDigits) ∧
    ∃ dump document, Format.json.render tokens = .ok dump ∧ dump = document ++ "\n" ∧
      JsonText.read document = some (.array (tokens.map Token.described)) := by
  intro largest tokens
  have hfits : ∀ t ∈ tokens, ∀ n ∈ Format.json.integers t, n.natAbs < 10 ^ Text.maxDigits := by
    have hlimit := Text.one_lt_limit
    refine List.forall_mem_singleton.2 ?_
    simp only [Format.integers, List.forall_mem_cons, List.not_mem_nil, false_imp_iff, implies_true, and_true]
    omega
  obtain ⟨dump, hdump, -, ⟨document, hdocument, -, hread⟩, -⟩ := render_json_tells hfits
  exact ⟨hfits, dump, document, hdump, hdocument, hread⟩

/-- A token with a longer cursor has no JSON dump. -/
theorem render_json_too_long :
    Format.json.render [⟨.space, " ", ⟨(10 ^ Text.maxDigits : Nat), 1, 0⟩, ⟨1, 1, 1⟩⟩] = .error .longInteger := by
  apply (Format.json.yields_render _).refused
  intro h
  exact Text.not_writable_limit (h _ List.mem_cons_self _ List.mem_cons_self)

/-- **A text dump has one line for each token and leaves out nothing but the cursors.** Tokens whose lines and
columns are below the limit in size have a dump. Its lines are those of the tokens, in their order; the characters
in it that end a line are as many line feeds as there are tokens, and each is the last character of its token's line
and the only one there that ends a line. Other tokens have this dump exactly if they agree with these one by one on
their types, values, lines and columns. -/
theorem render_text_tells {tokens : List Token}
    (h : ∀ t ∈ tokens, ∀ n ∈ Format.text.integers t, n.natAbs < 10 ^ Text.maxDigits) :
    ∃ dump lines, Format.text.render tokens = .ok dump ∧
      List.Forall₂ (fun t l => t.line Text.writeInteger = .ok l) tokens lines ∧
      Text.lines dump.toList = lines.map String.toList ∧
      dump.toList.filter Text.isLineEnd = List.replicate tokens.length '\n' ∧
      (∀ l ∈ lines, ∃ body, l.toList = body ++ ['\n'] ∧ body.any Text.isLineEnd = false) ∧
      ∀ others, Format.text.render others = .ok dump ↔ List.Forall₂ Token.Alike tokens others := by
  have hdump := (Format.text.yields_render tokens).written h
  refine ⟨textDump tokens, tokens.map Token.plainLine, hdump, ?_, ?_, filter_isLineEnd_textDump tokens, ?_,
    fun others => ⟨fun hothers => ?_, fun halike => ?_⟩⟩
  · rw [List.forall₂_map_right_iff, List.forall₂_same]
    exact fun t ht => t.yields_line.written (h t ht)
  · rw [lines_textDump, List.map_map]
    rfl
  · exact List.forall_mem_map.2 fun t _ => ⟨t.body, t.toList_plainLine, t.any_isLineEnd_body⟩
  · exact (textDump_eq_iff _ _).1 ((Format.text.yields_render others).eq_ok_iff.1 hothers).2.symm
  · exact (writeText_eq_of_alike Text.writeInteger halike).symm.trans hdump

/-- The limit is on lines and columns, a cursor may be of any size. -/
theorem render_text_long_cursor :
    let limit : Nat := 10 ^ Text.maxDigits
    let tokens : List Token := [⟨.comment, "a\nb", ⟨limit, (limit - 1 : Nat), 0⟩, ⟨0, -1, 0⟩⟩]
    (∀ t ∈ tokens, ∀ n ∈ Format.text.integers t, n.natAbs < 10 ^ Text.maxDigits) ∧
    ∃ dump, Format.text.render tokens = .ok dump ∧ dump.toList.filter Text.isLineEnd = ['\n'] := by
  intro limit tokens
  have hfits : ∀ t ∈ tokens, ∀ n ∈ Format.text.integers t, n.natAbs < 10 ^ Text.maxDigits := by
    have hlimit := Text.one_lt_limit
    refine List.forall_mem_singleton.2 ?_
    simp only [Format.integers, List.forall_mem_cons, List.not_mem_nil, false_imp_iff, implies_true, and_true]
    omega
  obtain ⟨dump, lines, hdump, -, -, hends, -⟩ := render_text_tells hfits
  exact ⟨hfits, dump, hdump, hends⟩

/-- A token on a line with a longer number has no text dump. -/
theorem render_text_too_long :
    Format.text.render [⟨.space, " ", ⟨0, (10 ^ Text.maxDigits : Nat), 0⟩, ⟨1, 1, 1⟩⟩] = .error .longInteger := by
  apply (Format.text.yields_render _).refused
  intro h
  exact Text.not_writable_limit (h _ List.mem_cons_self _ List.mem_cons_self)

/-! ### Positions in a text -/

/-- The numbers of a position are bounded by the length of the text. -/
theorem natAbs_placeAt {text : List Char} {k : Nat} (hk : k ≤ text.length) :
    (placeAt text k).cursor.natAbs ≤ text.length ∧ (placeAt text k).line.natAbs ≤ text.length + 1 ∧
      (placeAt text k).column.natAbs ≤ text.length := by
  have hlength : (text.take k).length = k := List.length_take_of_le hk
  have hcount : (text.take k).count '\n' ≤ (text.take k).length := List.count_le_length
  have hstart : lineStart (text.take k) ≤ (text.take k).length := Nat.sub_le _ _
  simp only [placeAt]
  omega

/-- **The tokens of a text are dumped in either format**, all of them or some, unless the text is so long that its
last line could have a number above the limit. -/
theorem Format.render_filter_tokenize (format : Format) {source : String}
    (h : source.length + 1 < 10 ^ Text.maxDigits) (p : Token → Bool) :
    format.render ((tokenize source).tokens.filter p) = .ok (format.dump ((tokenize source).tokens.filter p)) := by
  apply (format.yields_render _).written
  intro t ht n hn
  obtain ⟨i, j, hij, hj, hstart, hfinish, -⟩ := exists_tokenAt_of_mem (List.mem_filter.1 ht).1
  have hi := natAbs_placeAt (hij.trans hj)
  have hj := natAbs_placeAt hj
  rw [← hstart, String.length_toList] at hi
  rw [← hfinish, String.length_toList] at hj
  unfold Writable
  cases format
  all_goals
    simp only [integers, List.mem_cons, List.not_mem_nil, or_false] at hn
    omega

end Stylesheet
