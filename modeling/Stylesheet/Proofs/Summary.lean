import Stylesheet.Proofs.TextDump

/-!
# The lines of a summary

A summary begins with a line that tells how many tokens there are. A line follows for each type that occurs
(`lines_summary`), which names the type behind two spaces (`summaryType?`). So the lines about a type can be
told from all others, and there is one if the type occurs and none if not (`linesAbout_summary`).
-/

namespace Stylesheet

namespace Text

theorem isPrintable_numeral (n : Nat) : ∀ c ∈ (numeral n).toList, isPrintable c = true := by
  rw [toList_numeral]
  exact forall_mem_toDigits (by omega) (by decide) n

end Text

/-! ### Lines -/

/-- The line of a summary for a type that occurs `n` times, without its line feed. -/
def summaryBody (type : TokenType) (n : Nat) : List Char :=
  ' ' :: ' ' :: ((Text.leftAligned 13 type.name).toList ++ ' ' :: (Text.numeral n).toList)

/-- The first line of a summary of `n` tokens, without its line feed. -/
def summaryHead (n : Nat) : List Char := (Text.numeral n).toList ++ " tokens".toList

theorem isPrintable_summaryBody (type : TokenType) (n : Nat) :
    ∀ c ∈ summaryBody type n, Text.isPrintable c = true := by
  have hspace : Text.isPrintable ' ' = true := by decide
  simp only [summaryBody, List.forall_mem_cons, List.forall_mem_append]
  exact ⟨hspace, hspace, Text.isPrintable_leftAligned type.isPrintable_name 13, hspace, Text.isPrintable_numeral n⟩

theorem isPrintable_summaryHead (n : Nat) : ∀ c ∈ summaryHead n, Text.isPrintable c = true :=
  List.forall_mem_append.2 ⟨Text.isPrintable_numeral n, List.all_eq_true.1 (by decide)⟩

/-- A type that does not occur has no line. -/
theorem toList_summaryLine (tokens : List Token) (type : TokenType) : (summaryLine tokens type).toList =
    if countType type tokens = 0 then [] else summaryBody type (countType type tokens) ++ ['\n'] := by
  unfold summaryLine
  split
  · next h => simp [h]
  · next n hn =>
    rw [if_neg hn]
    simp [summaryBody]

/-- What is empty may be left out of texts that are put together. -/
theorem flatMap_filter_of_eq_nil {α : Type} {f : α → List Char} {p : α → Bool} (h : ∀ x, p x = false → f x = [])
    (xs : List α) : (xs.filter p).flatMap f = xs.flatMap f := by
  induction xs with
  | nil => rfl
  | cons x xs ih =>
    cases hx : p x with
    | true => rw [List.filter_cons_of_pos hx, List.flatMap_cons, List.flatMap_cons, ih]
    | false => rw [List.filter_cons_of_neg (by simp [hx]), List.flatMap_cons, h x hx, List.nil_append, ih]

/-- **The lines of a summary**: one for all tokens, and one for each type that occurs. -/
theorem lines_summary (tokens : List Token) : Text.lines (summary tokens).toList =
    (summaryHead tokens.length ++ ['\n']) ::
      (TokenType.all.filter (countType · tokens ≠ 0)).map
        fun type => summaryBody type (countType type tokens) ++ ['\n'] := by
  have htext : (summary tokens).toList = ((summaryHead tokens.length ++ ['\n']) ::
      (TokenType.all.filter (countType · tokens ≠ 0)).map (fun type => (summaryLine tokens type).toList)).flatten := by
    have habsent : ∀ type, decide (countType type tokens ≠ 0) = false → (summaryLine tokens type).toList = [] := by
      intro type h
      rw [toList_summaryLine, if_pos (by simpa using h)]
    rw [List.flatten_cons, ← List.flatMap_def, flatMap_filter_of_eq_nil habsent, summary, summaryHead]
    simp [String.toList_join, List.flatMap_def, Function.comp_def]
  have hlines : (TokenType.all.filter (countType · tokens ≠ 0)).map (fun type => (summaryLine tokens type).toList) =
      (TokenType.all.filter (countType · tokens ≠ 0)).map
        fun type => summaryBody type (countType type tokens) ++ ['\n'] := by
    refine List.map_congr_left fun type htype => ?_
    rw [toList_summaryLine, if_neg (by simpa using (List.mem_filter.1 htype).2)]
  rw [htext, hlines]
  apply Text.lines_flatten
  refine List.forall_mem_cons.2 ⟨⟨_, rfl, Text.any_isLineEnd_of_isPrintable (isPrintable_summaryHead _)⟩, ?_⟩
  refine List.forall_mem_map.2 fun type _ => ?_
  exact ⟨_, rfl, Text.any_isLineEnd_of_isPrintable (isPrintable_summaryBody type _)⟩

/-! ### The lines about a type -/

/-- How often a type occurs among tokens of some types: as often as before, or not at all. -/
theorem countType_filter (p : TokenType → Bool) (tokens : List Token) (type : TokenType) :
    countType type (tokens.filter (p ·.type)) = if p type then countType type tokens else 0 := by
  rw [countType, List.countP_filter]
  split
  · next hp =>
    refine List.countP_congr fun token _ => ?_
    simp only [Bool.and_eq_true, beq_iff_eq, and_iff_left_iff_imp]
    rintro rfl
    exact hp
  · next hp =>
    rw [List.countP_eq_zero]
    intro token _ hboth
    simp only [Bool.and_eq_true, beq_iff_eq] at hboth
    exact hp (hboth.1 ▸ hboth.2)

/-- The type that a line of a summary is about, if it is about one: the word behind two spaces. -/
def summaryType? : List Char → Option TokenType
  | ' ' :: ' ' :: rest => TokenType.ofName? (String.ofList (Text.takeWord rest).1)
  | _ => none

/-- The lines of a summary about a type. -/
def linesAbout (type : TokenType) (text : String) : List (List Char) :=
  (Text.lines text.toList).filter fun l => summaryType? l = some type

theorem TokenType.filter_all_eq (type : TokenType) : all.filter (· = type) = [type] := by
  cases type
  all_goals rfl

/-- Behind the two spaces stands the name of the type, and behind that its number. -/
theorem takeWord_summaryBody (type : TokenType) (n : Nat) (rest : List Char) :
    Text.takeWord ((summaryBody type n ++ rest).drop 2) = (type.name.toList, (Text.numeral n).toList ++ rest) := by
  have hcount : ((Text.numeral n).toList ++ rest).head? ≠ some ' ' := by
    obtain ⟨c, cs, hcons, hdigit⟩ := Text.exists_cons_toDigits n
    rw [Text.toList_numeral, hcons]
    rintro ⟨⟩
    cases hdigit
  have hdrop : (summaryBody type n ++ rest).drop 2 =
      (Text.leftAligned 13 type.name).toList ++ ' ' :: ((Text.numeral n).toList ++ rest) := by
    simp [summaryBody]
  rw [hdrop, Text.takeWord_leftAligned type.space_not_mem_name 13 hcount]

theorem summaryType?_summaryBody (type : TokenType) (n : Nat) (rest : List Char) :
    summaryType? (summaryBody type n ++ rest) = some type := by
  have hbody : summaryBody type n ++ rest = ' ' :: ' ' :: (summaryBody type n ++ rest).drop 2 := rfl
  rw [hbody, summaryType?, takeWord_summaryBody, String.ofList_toList, TokenType.ofName?_name]

theorem summaryType?_summaryHead (n : Nat) (rest : List Char) : summaryType? (summaryHead n ++ rest) = none := by
  obtain ⟨c, cs, hcons, hdigit⟩ := Text.exists_cons_toDigits n
  rw [summaryHead, Text.toList_numeral, hcons, List.cons_append, List.cons_append, summaryType?]
  intro more heq
  obtain rfl := (List.cons.inj heq).1
  cases hdigit

/-- **A type that occurs has one line in a summary**, which tells how often, and any other type has none. -/
theorem linesAbout_summary (type : TokenType) (tokens : List Token) : linesAbout type (summary tokens) =
    if countType type tokens = 0 then [] else [summaryBody type (countType type tokens) ++ ['\n']] := by
  have habout : ∀ type' : TokenType,
      decide (summaryType? (summaryBody type' (countType type' tokens) ++ ['\n']) = some type) = decide (type' = type) := by
    intro type'
    rw [summaryType?_summaryBody]
    simp
  rw [linesAbout, lines_summary, List.filter_cons_of_neg (by simp [summaryType?_summaryHead]), List.filter_map]
  simp only [Function.comp_def, habout]
  rw [List.filter_comm, TokenType.filter_all_eq]
  by_cases h : countType type tokens = 0
  · simp [h]
  · simp [h]

end Stylesheet
