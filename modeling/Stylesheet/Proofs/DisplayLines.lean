import Stylesheet.Proofs.Place
import Stylesheet.Proofs.Recognition
import Stylesheet.Text.Lines

/-!
# Line feeds and display lines

A position counts line feeds, and a report counts display lines (`Text.lines`), which end at more
characters. The two counts agree as long as the display lines end in a line feed, alone or behind a
carriage return (`Text.endsPlainly`): the display lines behind the first `n` are then those of the
text behind the first `n` line feeds (`drop_lines_append`).

`LineAround` says what the line of an index is when only line feeds count. If the display lines
before it end plainly, the report shows the character of the index in the column of its position
(`LineAround.getElem?_shownLine`), and it shows the whole line if that is a display line
(`LineAround.shownLine_eq`).
-/

namespace Stylesheet

/-! ### Display lines -/

namespace Text

/-- Whether the display lines of a text end in line feeds only, each alone or behind a carriage
return. -/
def endsPlainly : List Char → Bool
  | [] => true
  | '\r' :: '\n' :: cs => endsPlainly cs
  | c :: cs => (c == '\n' || !isLineEnd c) && endsPlainly cs

theorem lines_feed (cs : List Char) : lines ('\n' :: cs) = ['\n'] :: lines cs := by
  rw [lines, if_pos (by decide)]
  simp

/-- A character that ends no line belongs to the line that begins behind it. -/
theorem lines_cons_other {c : Char} (hc : isLineEnd c = false) {cs line : List Char} {rest : List (List Char)}
    (h : lines cs = line :: rest) : lines (c :: cs) = (c :: line) :: rest := by
  have hreturn : c ≠ '\r' := by
    rintro rfl
    cases hc
  rw [lines, if_neg (by simp [hc]), h]
  intro cs' hc' _
  exact hreturn hc'

/-- A stretch without line ends belongs to the line that begins behind it. -/
theorem lines_append_unbroken {a : List Char} (ha : a.any isLineEnd = false) {cs line : List Char}
    {rest : List (List Char)} (h : lines cs = line :: rest) : lines (a ++ cs) = (a ++ line) :: rest := by
  induction a with
  | nil => exact h
  | cons d a ih =>
    obtain ⟨hd, ha⟩ := Bool.or_eq_false_iff.1 ha
    exact lines_cons_other hd (ih ha)

/-- Lines that each end in a line feed, and have no other character that ends a line, are the lines of the
text that they make up. -/
theorem lines_flatten {ls : List (List Char)}
    (h : ∀ l ∈ ls, ∃ body : List Char, l = body ++ ['\n'] ∧ body.any isLineEnd = false) : lines ls.flatten = ls := by
  induction ls with
  | nil => rfl
  | cons l ls ih =>
    obtain ⟨⟨body, rfl, hbody⟩, hrest⟩ := List.forall_mem_cons.1 h
    rw [List.flatten_cons, List.append_assoc, List.singleton_append, lines_append_unbroken hbody (lines_feed _),
      ih hrest]

/-- The first line begins with the first character. -/
theorem exists_lines_cons (c : Char) (cs : List Char) : ∃ line rest, lines (c :: cs) = (c :: line) :: rest := by
  unfold lines
  split
  · next h => cases h
  · next cs' h =>
    obtain ⟨rfl, rfl⟩ := List.cons.inj h
    exact ⟨_, _, rfl⟩
  · next d ds _ h =>
    obtain ⟨rfl, rfl⟩ := List.cons.inj h
    split
    · exact ⟨_, _, rfl⟩
    · cases lines cs with
      | nil => exact ⟨_, _, rfl⟩
      | cons line rest => exact ⟨_, _, rfl⟩

/-- A line that a line feed or the end of the text closes has nothing but a line feed behind its last
character. -/
theorem exists_lines_last (d : Char) {after : List Char} (hafter : ∀ c ∈ after.head?, c = '\n') :
    ∃ feeds rest, lines (d :: after) = (d :: feeds) :: rest ∧ ∀ x ∈ feeds, x = '\n' := by
  cases after with
  | nil => exact ⟨[], [], by cases h : isLineEnd d <;> simp [lines, h], by simp⟩
  | cons c cs =>
    obtain rfl : c = '\n' := hafter c rfl
    by_cases hreturn : d = '\r'
    · subst hreturn
      exact ⟨['\n'], lines cs, by rw [lines], by simp⟩
    · cases hd : isLineEnd d with
      | true =>
        refine ⟨[], lines ('\n' :: cs), ?_, by simp⟩
        rw [lines, if_pos hd]
        intro _ h _
        exact hreturn h
      | false => exact ⟨['\n'], lines cs, lines_cons_other hd (lines_feed cs), by simp⟩

theorem getLast?_feed_of_cons {c : Char} {cs : List Char} (h : ∀ d ∈ (c :: cs).getLast?, d = '\n') :
    ∀ d ∈ cs.getLast?, d = '\n' := by
  intro d hd
  refine h d ?_
  rw [List.getLast?_cons, Option.mem_def.1 hd]
  rfl

/-- **Line feeds count the display lines** of a text that ends plainly, if its last line is closed:
behind as many lines as it has line feeds stand the lines of what follows. -/
theorem drop_lines_append {before : List Char} (hplain : endsPlainly before = true)
    (hlast : ∀ c ∈ before.getLast?, c = '\n') (rest : List Char) :
    (lines (before ++ rest)).drop (before.count '\n') = lines rest := by
  fun_induction endsPlainly before with
  | case1 => rfl
  | case2 cs ih =>
    have hcs := getLast?_feed_of_cons (getLast?_feed_of_cons hlast)
    simp [lines, ih hplain hcs]
  | case3 c cs _ ih =>
    obtain ⟨hc, hplain⟩ := Bool.and_eq_true_iff.1 hplain
    have hdrop := ih hplain (getLast?_feed_of_cons hlast)
    by_cases hfeed : c = '\n'
    · subst hfeed
      simp [lines_feed, hdrop]
    · have hother : isLineEnd c = false := by simpa [hfeed] using hc
      cases cs with
      | nil => exact absurd (hlast c rfl) hfeed
      | cons d ds =>
        -- the line goes on behind `c`, and a line feed in the rest closes it
        obtain ⟨line, more, hlines⟩ := exists_lines_cons d (ds ++ rest)
        have hmem : '\n' ∈ d :: ds := by
          have hd := hlast _ (List.getLast?_eq_some_getLast (List.cons_ne_nil c (d :: ds)))
          rw [List.getLast_cons (List.cons_ne_nil d ds)] at hd
          exact hd ▸ List.getLast_mem _
        obtain ⟨n, hn⟩ := Nat.exists_eq_succ_of_ne_zero (List.count_pos_iff.2 hmem).ne'
        rw [List.cons_append, hlines, hn, Nat.succ_eq_add_one, List.drop_succ_cons] at hdrop
        rw [List.cons_append, List.cons_append, lines_cons_other hother hlines, List.count_cons_of_ne hfeed, hn,
          Nat.succ_eq_add_one, List.drop_succ_cons, hdrop]

/-- A display line has a line feed at most at its end. -/
theorem exists_of_mem_lines {text line : List Char} (h : line ∈ lines text) :
    ∃ a feeds, line = a ++ feeds ∧ '\n' ∉ a ∧ ∀ x ∈ feeds, x = '\n' := by
  fun_induction lines text generalizing line with
  | case1 => simp at h
  | case2 cs ih =>
    rcases List.mem_cons.1 h with rfl | h
    · exact ⟨['\r'], ['\n'], rfl, by decide, by simp⟩
    · exact ih h
  | case3 c cs _ hc ih =>
    rcases List.mem_cons.1 h with rfl | h
    · by_cases hfeed : c = '\n'
      · exact ⟨[], [c], rfl, by simp, by simpa using hfeed⟩
      · exact ⟨[c], [], rfl, by simpa using Ne.symm hfeed, by simp⟩
    · exact ih h
  | case4 c cs _ hc _ _ =>
    obtain rfl := List.mem_singleton.1 h
    have hfeed : c ≠ '\n' := fun hfeed => hc (hfeed ▸ rfl)
    exact ⟨[c], [], rfl, by simpa using hfeed.symm, by simp⟩
  | case5 c cs _ hc line' rest hlines ih =>
    rw [hlines] at ih
    rcases List.mem_cons.1 h with rfl | h
    · obtain ⟨a, feeds, rfl, ha, hfeeds⟩ := ih List.mem_cons_self
      have hfeed : c ≠ '\n' := fun hfeed => hc (hfeed ▸ rfl)
      exact ⟨c :: a, feeds, rfl, by simp [hfeed.symm, ha], hfeeds⟩
    · exact ih (List.mem_cons_of_mem _ h)

theorem withoutFinalFeeds_append {a feeds : List Char} (ha : '\n' ∉ a) (hfeeds : ∀ x ∈ feeds, x = '\n') :
    withoutFinalFeeds (a ++ feeds) = a := by
  have hdrop : a.reverse.dropWhile (· == '\n') = a.reverse := by
    rw [List.dropWhile_eq_self_iff]
    intro hpos
    have hmem : a.reverse[0] ∈ a := List.mem_reverse.1 (List.getElem_mem hpos)
    have hfeed : a.reverse[0] ≠ '\n' := ne_of_mem_of_not_mem hmem ha
    simpa using hfeed
  rw [withoutFinalFeeds, List.reverse_append, List.dropWhile_append_of_pos, hdrop, List.reverse_reverse]
  intro x hx
  simpa using hfeeds x (List.mem_reverse.1 hx)

/-- A character of a display line is shown if it is not its line feed. -/
theorem getElem?_withoutFinalFeeds {text l : List Char} (h : l ∈ lines text) {j : Nat} {d : Char}
    (hd : l[j]? = some d) (hfeed : d ≠ '\n') : (withoutFinalFeeds l)[j]? = some d := by
  obtain ⟨a, feeds, rfl, ha, hfeeds⟩ := exists_of_mem_lines h
  rw [withoutFinalFeeds_append ha hfeeds]
  rcases Nat.lt_or_ge j a.length with hj | hj
  · rwa [List.getElem?_append_left hj] at hd
  · rw [List.getElem?_append_right hj] at hd
    exact absurd (hfeeds d (List.mem_of_getElem? hd)) hfeed

/-- The line of a number, in a text in which line feeds count the lines before it. -/
theorem shownLine_succ (text : String) (n : Nat) :
    shownLine text (1 + n) = String.ofList (withoutFinalFeeds ((lines text.toList)[n]?.getD [])) := by
  rw [shownLine, if_neg (by omega)]
  congr
  omega

theorem feed_not_mem_shownLine (text : String) (number : Int) : '\n' ∉ (shownLine text number).toList := by
  unfold shownLine
  split
  · decide
  · rw [String.toList_ofList]
    cases h : (lines text.toList)[(number - 1).toNat]? with
    | none => decide
    | some line =>
      obtain ⟨a, feeds, rfl, ha, hfeeds⟩ := exists_of_mem_lines (List.mem_of_getElem? h)
      rw [Option.getD_some, withoutFinalFeeds_append ha hfeeds]
      exact ha

end Text

/-! ### The line around an index -/

/-- `LineAround text k before line after`: `line` is the part of `text` without line feeds that index
`k` lies in, as long as it can be, between `before` and `after`. -/
structure LineAround (text : List Char) (k : Nat) (before line after : List Char) : Prop where
  /-- The three parts make up the text. -/
  text_eq : text = before ++ (line ++ after)
  /-- The index does not lie before the line. -/
  start_le : before.length ≤ k
  /-- It does not lie behind the line. -/
  lt_stop : k < before.length + line.length
  /-- No line feed is in the line. -/
  feed : '\n' ∉ line
  /-- What stands before the line ends in a line feed. -/
  opened : ∀ c ∈ before.getLast?, c = '\n'
  /-- What stands behind the line begins with a line feed. -/
  closed : ∀ c ∈ after.head?, c = '\n'

/-- Every text can be cut behind its last line feed. -/
theorem exists_last_feed (a : List Char) :
    ∃ before head, a = before ++ head ∧ '\n' ∉ head ∧ ∀ c ∈ before.getLast?, c = '\n' := by
  induction a with
  | nil => exact ⟨[], [], rfl, by simp, by simp⟩
  | cons x a ih =>
    obtain ⟨before, head, rfl, hhead, hlast⟩ := ih
    cases before with
    | nil =>
      by_cases hx : x = '\n'
      · exact ⟨[x], head, rfl, hhead, by simpa using hx⟩
      · exact ⟨[], x :: head, rfl, by simp [Ne.symm hx, hhead], by simp⟩
    | cons y before => exact ⟨x :: y :: before, head, rfl, hhead, by rwa [List.getLast?_cons_cons]⟩

/-- A character that is no line feed has a line around it. -/
theorem exists_lineAround {c : Char} (hc : c ≠ '\n') (a b : List Char) :
    ∃ before line after, LineAround (a ++ c :: b) a.length before line after := by
  obtain ⟨before, head, rfl, hhead, hlast⟩ := exists_last_feed a
  have hb : b = b.takeWhile (· != '\n') ++ b.dropWhile (· != '\n') := List.takeWhile_append_dropWhile.symm
  have htail : '\n' ∉ b.takeWhile (· != '\n') := by
    intro hmem
    simpa using List.mem_takeWhile_imp hmem
  refine ⟨before, head ++ c :: b.takeWhile (· != '\n'), b.dropWhile (· != '\n'), ⟨?_, ?_, ?_, ?_, hlast, ?_⟩⟩
  · rw [List.append_assoc, List.append_assoc, List.cons_append, ← hb]
  · rw [List.length_append]
    omega
  · simp only [List.length_append, List.length_cons]
    omega
  · simp [hhead, htail, hc.symm]
  · intro d hd
    simpa using Lexeme.run_stops hb d hd

/-- The last line of a text starts behind its last line feed. -/
theorem lineStart_append {before head : List Char} (hhead : '\n' ∉ head) (hlast : ∀ c ∈ before.getLast?, c = '\n') :
    lineStart (before ++ head) = before.length := by
  have hrun : ∀ c ∈ head.reverse, (c != '\n') = true := by
    intro c hc
    exact bne_iff_ne.2 (ne_of_mem_of_not_mem (List.mem_reverse.1 hc) hhead)
  have hstop : before.reverse.takeWhile (· != '\n') = [] := by
    rw [List.takeWhile_eq_nil_iff]
    intro hpos
    have hmem : before.reverse[0] ∈ before.getLast? := by
      rw [← List.head?_reverse, List.head?_eq_getElem?, List.getElem?_eq_getElem hpos]
      rfl
    simp [hlast _ hmem]
  rw [lineStart, List.reverse_append, List.takeWhile_append_of_pos hrun, hstop]
  simp

namespace LineAround

variable {text before line after : List Char} {k : Nat}

/-- A position tells the line feeds before its line, and how far behind the last of them it is. -/
theorem placeAt_eq (h : LineAround text k before line after) :
    placeAt text k = ⟨k, 1 + before.count '\n', (k - before.length : Nat)⟩ := by
  have hstart := h.start_le
  have hstop := h.lt_stop
  have htake : text.take k = before ++ line.take (k - before.length) := by
    rw [h.text_eq, List.take_append, List.take_of_length_le h.start_le, List.take_append_of_le_length (by omega)]
  have hfeed : '\n' ∉ line.take (k - before.length) := fun hmem => h.feed (List.mem_of_mem_take hmem)
  rw [placeAt, htake, List.count_append, List.count_eq_zero.2 hfeed, lineStart_append hfeed h.opened,
    Int.ofNat_sub hstart]
  rfl

/-- The display line that a position leads to, if the display lines before it end plainly. -/
theorem getElem?_lines (h : LineAround text k before line after) (hplain : Text.endsPlainly before = true) :
    (Text.lines text)[before.count '\n']? = (Text.lines (line ++ after)).head? := by
  rw [← List.head?_drop, h.text_eq, Text.drop_lines_append hplain h.opened]

/-- **The line is shown** where it is a display line itself. -/
theorem shownLine_eq {source : String} (h : LineAround source.toList k before line after)
    (hplain : Text.endsPlainly before = true) (hline : line.dropLast.any Text.isLineEnd = false) :
    (Text.shownLine source (1 + before.count '\n')).toList = line := by
  have hne : line ≠ [] := by
    rintro rfl
    exact absurd h.lt_stop (Nat.not_lt.2 h.start_le)
  obtain ⟨feeds, rest, hlast, hfeeds⟩ := Text.exists_lines_last (line.getLast hne) h.closed
  have hjoin : ∀ cs, line.dropLast ++ line.getLast hne :: cs = line ++ cs := by
    intro cs
    rw [List.append_cons, List.dropLast_append_getLast]
  have hlines := Text.lines_append_unbroken hline hlast
  rw [hjoin, hjoin] at hlines
  rw [Text.shownLine_succ, h.getElem?_lines hplain, hlines, List.head?_cons, Option.getD_some, String.toList_ofList,
    Text.withoutFinalFeeds_append h.feed hfeeds]

/-- **The caret's column is that of the character** if the line has no display line end before it. -/
theorem getElem?_shownLine {source : String} (h : LineAround source.toList k before line after)
    (hplain : Text.endsPlainly before = true)
    (hline : (line.take (k - before.length)).any Text.isLineEnd = false) :
    (Text.shownLine source (1 + before.count '\n')).toList[k - before.length]? = source.toList[k]? := by
  have hstart := h.start_le
  have hstop := h.lt_stop
  obtain ⟨a, d, b, rfl, ha⟩ : ∃ a d b, line = a ++ d :: b ∧ a.length = k - before.length :=
    ⟨line.take (k - before.length), line.get ⟨k - before.length, by omega⟩, line.drop (k - before.length + 1),
      by simp, by rw [List.length_take]; omega⟩
  rw [← ha, List.take_left] at hline
  have hsource : source.toList[k]? = some d := by
    rw [h.text_eq, List.getElem?_append_right hstart, ← ha, List.append_assoc,
      List.getElem?_append_right (Nat.le_refl _), Nat.sub_self]
    rfl
  have hfeed : d ≠ '\n' := by
    rintro rfl
    exact h.feed (List.mem_append_right a List.mem_cons_self)
  -- the display line has the beginning of the line, and goes on with the character itself
  obtain ⟨l, rest, hrest⟩ := Text.exists_lines_cons d (b ++ after)
  have hshown := h.getElem?_lines hplain
  rw [List.append_assoc, List.cons_append, Text.lines_append_unbroken hline hrest, List.head?_cons] at hshown
  rw [Text.shownLine_succ, hshown, Option.getD_some, String.toList_ofList, hsource, ← ha]
  refine Text.getElem?_withoutFinalFeeds (List.mem_of_getElem? hshown) ?_ hfeed
  rw [List.getElem?_append_right (Nat.le_refl _), Nat.sub_self]
  rfl

end LineAround

end Stylesheet
