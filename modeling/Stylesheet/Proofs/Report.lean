import Stylesheet.Proofs.DisplayLines
import Stylesheet.Proofs.Margin
import Stylesheet.Proofs.ReadBack

/-!
# The snippet of a report

The report of an error ends in a snippet: a source line, and below it a caret line. The bars of the
two stand at one offset whatever the number of the line is (`Snippet`). The caret is meant to stand
under the character that the message names, on the line of that character (`LineAround`).

The line is looked up among the display lines by a number that counts line feeds. Where the two
notions of a line agree, the caret stands under the character, and the line is shown as a whole.
Main statement: `report_snippet`. A form feed in an earlier comment already leads the report to
another line (`report_form_feed`).
-/

namespace Stylesheet

/-! ### The two lines of a snippet -/

/-- A source line: a text behind a bar, with a number in front of it. -/
def sourceLine (number shown : List Char) : List Char := number ++ '|' :: ' ' :: shown

/-- A caret line: a caret in a column behind a bar, with a margin in front of it. -/
def caretLine (margin column : Nat) : List Char :=
  List.replicate margin ' ' ++ '|' :: ' ' :: (List.replicate column ' ' ++ ['^'])

/-- `Snippet above below shown`: the source line `above` shows `shown` behind its bar, and the bar of
the caret line `below` stands at the same offset. -/
structure Snippet (above below shown : List Char) : Prop where
  /-- A space, and then what is shown, stand behind the first bar of the source line. -/
  shows : above.drop (above.idxOf '|') = '|' :: ' ' :: shown
  /-- The first bar of the caret line is below it. -/
  aligned : below.idxOf '|' = above.idxOf '|'
  /-- Behind its bar, the caret line has nothing but spaces and the caret. -/
  points : ∃ n, below.drop (below.idxOf '|') = '|' :: ' ' :: (List.replicate n ' ' ++ ['^'])

theorem idxOf_append_cons {c : Char} {a : List Char} (h : c ∉ a) (b : List Char) :
    (a ++ c :: b).idxOf c = a.length := by
  rw [List.idxOf_append, if_neg h, List.idxOf_cons_self, Nat.zero_add]

/-- The lines make a snippet if the margin is as wide as the number. -/
theorem snippet_sourceLine {number : List Char} (hnumber : '|' ∉ number) (shown : List Char) (column : Nat) :
    Snippet (sourceLine number shown) (caretLine number.length column) shown := by
  have hmargin : '|' ∉ List.replicate number.length ' ' := by simp
  rw [sourceLine, caretLine]
  refine ⟨?_, ?_, column, ?_⟩
  · rw [idxOf_append_cons hnumber, List.drop_left]
  · rw [idxOf_append_cons hnumber, idxOf_append_cons hmargin, List.length_replicate]
  · rw [idxOf_append_cons hmargin, List.drop_left]

/-- Then the caret stands under the character that its column has in what is shown. -/
theorem getElem?_sourceLine (number shown : List Char) (column : Nat) :
    (sourceLine number shown)[(caretLine number.length column).idxOf '^']? = shown[column]? := by
  have hcaret : '^' ∉ List.replicate number.length ' ' ++ '|' :: ' ' :: List.replicate column ' ' := by simp
  have hindex : (caretLine number.length column).idxOf '^' = number.length + (column + 2) := by
    rw [caretLine, ← List.cons_append, ← List.cons_append, ← List.append_assoc, idxOf_append_cons hcaret]
    simp
  rw [hindex, sourceLine, List.getElem?_append_right (by omega), Nat.add_sub_cancel_left]
  rfl

/-- What stands before the bar of a source line: its number and a space. -/
def lineNumber (line : Int) : List Char := (Text.integer line).toList ++ [' ']

theorem bar_not_mem_lineNumber (line : Int) : '|' ∉ lineNumber line := by
  have hbar : '|' ∉ (Text.integer line).toList := Text.not_mem_integer rfl (by decide) line
  simpa [lineNumber] using hbar

/-- An excerpt ends in a source line and a caret line. -/
theorem drop_map_excerpt (file source : String) (cursor line : Int) (column : Nat) :
    ((LexError.excerpt file source ⟨cursor, line, column⟩).map String.toList).drop 2 =
      [sourceLine (lineNumber line) (Text.shownLine source line).toList,
        caretLine (lineNumber line).length column] := by
  have hmargin : (Text.spaces ((Text.integer line).length + 1)).toList =
      List.replicate (lineNumber line).length ' ' := by
    rw [← Int.natCast_succ, Text.toList_spaces, lineNumber, List.length_append, String.length_toList]
    rfl
  simp [LexError.excerpt, sourceLine, caretLine, hmargin, Text.toList_spaces, lineNumber]

/-- No line of it has a line feed, if the name of the file has none. -/
theorem feed_not_mem_excerpt {file : String} (hfile : '\n' ∉ file.toList) (source : String) (p : Position) :
    ∀ l ∈ (LexError.excerpt file source p).map String.toList, '\n' ∉ l := by
  have hnumeral := fun n => Text.not_mem_integer (c := '\n') rfl (by decide) n
  have hshown := Text.feed_not_mem_shownLine source p.line
  simp [LexError.excerpt, Text.spaces, hnumeral, hshown, hfile]

/-- A report ends in a source line and a caret line, if neither the message nor the name of the file
has a line feed. -/
theorem exists_splitOn_report {e : LexError} {file source : String} {cursor line : Int} {column : Nat}
    (hposition : e.position = some ⟨cursor, line, column⟩) (hsource : e.source = some source)
    (hmessage : '\n' ∉ e.message.toList) (hfile : '\n' ∉ file.toList) :
    ∃ upper, (e.report file).toList.splitOn '\n' = upper ++
      [sourceLine (lineNumber line) (Text.shownLine source line).toList,
        caretLine (lineNumber line).length column] := by
  refine ⟨("error: " ++ e.message).toList ::
    ((LexError.excerpt file source ⟨cursor, line, column⟩).map String.toList).take 2, ?_⟩
  rw [List.cons_append, ← drop_map_excerpt file source cursor, List.take_append_drop, LexError.report, hposition,
    hsource, String.toList_intercalate]
  refine List.splitOn_intercalate '\n' ?_ (List.cons_ne_nil _ _)
  intro l hl
  rcases List.mem_cons.1 hl with rfl | hl
  · simpa using hmessage
  · exact feed_not_mem_excerpt hfile source _ l hl

theorem feed_not_mem_message {c : Char} (hc : c ≠ '\n') : '\n' ∉ (Fault.unhandled c).message.toList := by
  have hopening : '\n' ∉ "Can't handle character: \"".toList := by decide +kernel
  have hclosing : '\n' ∉ "\"".toList := by decide
  have hchar : '\n' ∉ (String.singleton c).toList := by simpa using hc.symm
  have hmessage : (Fault.unhandled c).message = "Can't handle character: \"" ++ String.singleton c ++ "\"" := rfl
  simp only [hmessage, String.toList_append, List.mem_append, hopening, hclosing, hchar, or_self, not_false_eq_true]

/-- The character of an error is no line feed, and the error stands at its index. -/
theorem exists_of_failure {source : String} {e : LexError} (h : (tokenize source).failure = some e) :
    ∃ a c b, source.toList = a ++ c :: b ∧ c ≠ '\n' ∧ e.fault = .unhandled c ∧
      e.position = some (placeAt source.toList a.length) ∧ e.source = some source := by
  obtain ⟨ls, c, rest, hcuts, rfl⟩ := exists_cuts_of_failure h
  refine ⟨Lexeme.spelled ls, c, rest, hcuts.text_eq, ?_, rfl, ?_, rfl⟩
  · rintro rfl
    have hnone := hcuts.first?_rest
    rw [Lexeme.first?, Option.map_eq_none_iff] at hnone
    cases not_fits_of_of?_eq_none hnone .blank
  · rw [← start_advance_take _ (by rw [hcuts.text_eq]; simp), hcuts.take_text]

/-- **The caret of a report.** The report of an error ends in a source line and a caret line, whose
bars stand at one offset. If the display lines before the line of the error end plainly, the caret
stands under the character of the error as long as the line has no display line end before it, and
the whole line is shown if it has none before its last character. -/
theorem report_snippet {source file : String} {e : LexError} (h : (tokenize source).failure = some e)
    (hfile : '\n' ∉ file.toList) :
    ∃ (k : Nat) (c : Char) (upper : List (List Char)) (above below shown : List Char),
      e.fault = .unhandled c ∧ e.position = some (placeAt source.toList k) ∧ source.toList[k]? = some c ∧
      (e.report file).toList.splitOn '\n' = upper ++ [above, below] ∧ Snippet above below shown ∧
      (∃ before line after, LineAround source.toList k before line after) ∧
      ∀ before line after, LineAround source.toList k before line after → Text.endsPlainly before = true →
        ((line.take (k - before.length)).any Text.isLineEnd = false → above[below.idxOf '^']? = some c) ∧
        (line.dropLast.any Text.isLineEnd = false → shown = line) := by
  obtain ⟨a, c, b, htext, hc, hfault, hposition, hsource⟩ := exists_of_failure h
  have hat : source.toList[a.length]? = some c := by
    rw [htext, List.getElem?_append_right (Nat.le_refl _), Nat.sub_self]
    rfl
  obtain ⟨before, line, after, haround⟩ := exists_lineAround hc a b
  rw [← htext] at haround
  have hmessage : '\n' ∉ e.message.toList := by
    rw [LexError.message, hfault]
    exact feed_not_mem_message hc
  obtain ⟨upper, hsplit⟩ :=
    exists_splitOn_report (hposition.trans (congrArg some haround.placeAt_eq)) hsource hmessage hfile
  refine ⟨a.length, c, upper, _, _, _, hfault, hposition, hat, hsplit,
    snippet_sourceLine (bar_not_mem_lineNumber _) _ _, ⟨before, line, after, haround⟩, ?_⟩
  intro before' line' after' haround' hplain
  -- the position tells where the line begins, so the two lines around the index begin alike
  have hplace := haround.placeAt_eq.symm.trans haround'.placeAt_eq
  simp only [Position.mk.injEq, true_and, Int.add_right_inj, Int.natCast_inj] at hplace
  rw [hplace.1, hplace.2, getElem?_sourceLine, ← hat]
  exact ⟨haround'.getElem?_shownLine hplain, haround'.shownLine_eq hplain⟩

/-- A carriage return before a line feed, in a comment before the error, does no harm. -/
theorem report_snippet_carriage_return :
    ∃ e upper above below, (tokenize "/*\r\n*/ ?;\n").failure = some e ∧
      (e.report "a.scss").toList.splitOn '\n' = upper ++ [above, below] ∧ Snippet above below "*/ ?;".toList ∧
      above[below.idxOf '^']? = some '?' := by
  have hfails : (tokenize "/*\r\n*/ ?;\n").failure =
      some ⟨.unhandled '?', some ⟨7, 2, 3⟩, some "/*\r\n*/ ?;\n"⟩ := by
    decide +kernel
  obtain ⟨k, c, upper, above, below, shown, hfault, hposition, -, hsplit, hsnippet, -, hplain⟩ :=
    report_snippet hfails (show '\n' ∉ "a.scss".toList by decide)
  have hk : (7 : Int) = k := congrArg Position.cursor (Option.some.inj hposition)
  obtain rfl : k = 7 := by omega
  obtain rfl : '?' = c := Fault.unhandled.inj hfault
  have haround : LineAround "/*\r\n*/ ?;\n".toList 7 "/*\r\n".toList "*/ ?;".toList "\n".toList :=
    ⟨by decide, by decide, by decide, by decide, by simp, by simp⟩
  obtain ⟨hcaret, hshown⟩ := hplain _ _ _ haround (by decide)
  rw [hshown (by decide)] at hsnippet
  exact ⟨_, upper, above, below, hfails, hsplit, hsnippet, hcaret (by decide)⟩

/-- A form feed in a comment ends a display line but counts as no line, so the report shows the end
of the comment instead of the next line, and the caret stands under a star. -/
theorem report_form_feed :
    ∃ e upper above below, (tokenize "/*\x0c*/\n?").failure = some e ∧ e.fault = .unhandled '?' ∧
      LineAround "/*\x0c*/\n?".toList 6 "/*\x0c*/\n".toList "?".toList [] ∧
      e.position = some (placeAt "/*\x0c*/\n?".toList 6) ∧
      (e.report "a.scss").toList.splitOn '\n' = upper ++ [above, below] ∧ Snippet above below "*/".toList ∧
      above[below.idxOf '^']? = some '*' := by
  refine ⟨⟨.unhandled '?', some ⟨6, 2, 0⟩, some "/*\x0c*/\n?"⟩,
    ["error: Can't handle character: \"?\"".toList, "  --> a.scss:2:0".toList, "  |".toList], "2 | */".toList,
    "  | ^".toList, by decide +kernel, rfl, ?_, by decide, by decide +kernel, ?_, by decide⟩
  · exact ⟨by decide, by decide, by decide, by decide, by simp, by simp⟩
  · exact ⟨by decide, by decide, 0, by decide⟩

end Stylesheet
