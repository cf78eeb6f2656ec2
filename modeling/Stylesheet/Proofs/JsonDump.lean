import Stylesheet.Dump
import Stylesheet.Proofs.JsonReader

/-!
# JSON dumps are read back

The written form of a value holds ASCII only and stands for that value again: `read_plain` says so of
every value, by induction over it. A written value is cut into the pieces that one expects (`scans_plain`),
and these are taken in as the value (`value_pieces`); both are proved with anything else around. No limit on
the digits of integers is observed here: `Rendering` adds it.

For a dump this means that no token is lost, changed or moved (`exists_document`), and that different lists
of tokens have different dumps (`jsonDump_inj`).
-/

namespace Stylesheet

/-! ### Induction over values -/

namespace Json

/-- Induction over a value, with the hypothesis for all items and all members. -/
@[elab_as_elim]
theorem ind {motive : Json → Prop} (string : ∀ text, motive (.string text)) (integer : ∀ n, motive (.integer n))
    (array : ∀ items, (∀ j ∈ items, motive j) → motive (.array items))
    (object : ∀ members, (∀ m ∈ members, motive m.2) → motive (.object members)) (j : Json) : motive j :=
  @Json.rec motive (fun items => ∀ j ∈ items, motive j) (fun members => ∀ m ∈ members, motive m.2)
    (fun m => motive m.2) string integer array object (List.forall_mem_nil _)
    (fun _ _ hj hrest => List.forall_mem_cons.2 ⟨hj, hrest⟩) (List.forall_mem_nil _)
    (fun _ _ hm hrest => List.forall_mem_cons.2 ⟨hm, hrest⟩) (fun _ _ h => h) j

/-! ### Writing, item by item -/

section

variable {m : Type → Type} [Monad m] [LawfulMonad m] (integer : Int → m String)

theorem writeItems_eq_mapM (depth : Nat) (items : List Json) :
    writeItems integer depth items = items.mapM (write integer depth) := by
  induction items with
  | nil => rw [writeItems, List.mapM_nil]
  | cons item items ih => rw [writeItems, ih, List.mapM_cons]

/-- A member as it is written at a depth of nesting. -/
def writeMember (depth : Nat) (member : String × Json) : m String := do
  let part ← write integer depth member.2
  return writtenString member.1 ++ ": " ++ part

theorem writeMembers_eq_mapM (depth : Nat) (members : List (String × Json)) :
    writeMembers integer depth members = members.mapM (writeMember integer depth) := by
  induction members with
  | nil => rw [writeMembers, List.mapM_nil]
  | cons member members ih => simp [writeMembers, writeMember, ih]

end

/-- The written form of a value, whatever its integers are. -/
def plain (depth : Nat) (j : Json) : String := Id.run (j.write (pure <| Text.integer ·) depth)

/-- A member as it is written, whatever its integers are. -/
def plainMember (depth : Nat) (member : String × Json) : String :=
  writtenString member.1 ++ ": " ++ member.2.plain depth

theorem plain_string (depth : Nat) (text : String) : (string text).plain depth = writtenString text := rfl

theorem plain_integer (depth : Nat) (n : Int) : (integer n).plain depth = Text.integer n := rfl

theorem plain_array (depth : Nat) (items : List Json) :
    (array items).plain depth = bracketed depth "[" "]" (items.map (plain (depth + 1))) := by
  rw [plain, write, writeItems_eq_mapM, Id.run_bind, List.idRun_mapM]
  rfl

theorem plain_object (depth : Nat) (members : List (String × Json)) :
    (object members).plain depth = bracketed depth "\x7b" "\x7d" (members.map (plainMember (depth + 1))) := by
  rw [plain, write, writeMembers_eq_mapM, Id.run_bind, List.idRun_mapM]
  rfl

/-! ### What a value stands for, and its pieces -/

open JsonText (Value Frame Scans Apart value after mark?)

theorem sizeOf_lt_of_item {items : List Json} {j : Json} (h : j ∈ items) : sizeOf j < sizeOf (Json.array items) := by
  have hitem := List.sizeOf_lt_of_mem h
  simp only [array.sizeOf_spec]
  omega

theorem sizeOf_lt_of_member {members : List (String × Json)} {m : String × Json} (h : m ∈ members) :
    sizeOf m.2 < sizeOf (Json.object members) := by
  have hmember := List.sizeOf_lt_of_mem h
  have hvalue : sizeOf m = 1 + sizeOf m.1 + sizeOf m.2 := rfl
  simp only [object.sizeOf_spec]
  omega

/-- What the written form of a value is to stand for. -/
def meaning : Json → Value
  | .string text => .string text
  | .integer n => .number n 0
  | .array items => .array (items.map meaning)
  | .object members => .object (members.map fun m => (m.1, m.2.meaning))
termination_by j => sizeOf j
decreasing_by
  · exact sizeOf_lt_of_item ‹_›
  · exact sizeOf_lt_of_member ‹_›

/-- The pieces of the written form of a value. -/
def pieces : Json → List JsonText.Piece
  | .string text => [.scalar (.string text)]
  | .integer n => [.scalar (.number n 0)]
  | .array items => .listStart :: ([.comma].intercalate (items.map pieces) ++ [.listEnd])
  | .object members =>
    .objectStart :: ([.comma].intercalate (members.map fun m => .scalar (.string m.1) :: .colon :: m.2.pieces) ++
      [.objectEnd])
termination_by j => sizeOf j
decreasing_by
  · exact sizeOf_lt_of_item ‹_›
  · exact sizeOf_lt_of_member ‹_›

/-! ### Taking in the pieces -/

theorem intercalate_cons_eq {α : Type} (separator x : List α) (xs : List (List α)) :
    separator.intercalate (x :: xs) = x ++ xs.flatMap (separator ++ ·) := by
  induction xs generalizing x with
  | nil => simp
  | cons y xs ih => simp [List.intercalate_cons_cons, ih]

/-- `TakenIn j`: wherever a value may come, the pieces of `j` are taken in as its meaning. -/
def TakenIn (j : Json) : Prop := ∀ stack ps, value stack (j.pieces ++ ps) = after stack j.meaning ps

/-- The items behind a first one, up to the end of the list. -/
theorem after_items {items : List Json} (h : ∀ j ∈ items, j.TakenIn) (before : List Value) (v : Value)
    (stack : List Frame) (ps : List JsonText.Piece) :
    after (.list before :: stack) v (items.flatMap (fun j => .comma :: j.pieces) ++ .listEnd :: ps) =
      after stack (.array (before ++ v :: items.map meaning)) ps := by
  induction items generalizing before v with
  | nil => rw [List.flatMap_nil, List.nil_append, after, List.map_nil]
  | cons j items ih =>
    rw [List.forall_mem_cons] at h
    rw [List.flatMap_cons, List.append_assoc, List.cons_append, after, h.1, ih h.2]
    simp

/-- The members behind a first one, up to the end of the object. -/
theorem after_members {members : List (String × Json)} (h : ∀ m ∈ members, m.2.TakenIn)
    (before : List (String × Value)) (name : String) (v : Value) (stack : List Frame) (ps : List JsonText.Piece) :
    after (.object before name :: stack) v
        (members.flatMap (fun m => .comma :: .scalar (.string m.1) :: .colon :: m.2.pieces) ++ .objectEnd :: ps) =
      after stack (.object (before ++ (name, v) :: members.map fun m => (m.1, m.2.meaning))) ps := by
  induction members generalizing before name v with
  | nil => rw [List.flatMap_nil, List.nil_append, after, List.map_nil]
  | cons m members ih =>
    rw [List.forall_mem_cons] at h
    rw [List.flatMap_cons, List.append_assoc, List.cons_append, List.cons_append, List.cons_append, after, h.1, ih h.2]
    simp

/-- **The pieces of a value are taken in as its meaning.** -/
theorem value_pieces (j : Json) : j.TakenIn := by
  induction j using ind with
  | string text =>
    intro stack ps
    rw [pieces, meaning, List.singleton_append, value]
  | integer n =>
    intro stack ps
    rw [pieces, meaning, List.singleton_append, value]
  | array items ih =>
    intro stack ps
    rw [pieces, meaning]
    cases items with
    | nil => rfl
    | cons j items =>
      rw [List.forall_mem_cons] at ih
      rw [List.map_cons, intercalate_cons_eq, List.flatMap_map]
      simp only [List.cons_append, List.append_assoc, List.nil_append, value, ih.1 _ _]
      exact after_items ih.2 [] j.meaning stack ps
  | object members ih =>
    intro stack ps
    rw [pieces, meaning]
    cases members with
    | nil => rfl
    | cons m members =>
      rw [List.forall_mem_cons] at ih
      rw [List.map_cons, intercalate_cons_eq, List.flatMap_map]
      simp only [List.cons_append, List.append_assoc, List.nil_append, value, ih.1 _ _]
      exact after_members ih.2 [] m.1 m.2.meaning stack ps

/-! ### Written characters are found again -/

section

open JsonText

theorem first?_plain {c : Char} (hslash : c ≠ '\\') (hcontrol : 0x20 ≤ c.toNat) (rest : List Char) :
    first? (c :: rest) = some (c, 0) := by
  rw [first?, if_neg (by simp [hslash]; omega)]
  all_goals simp [hslash]

theorem toList_unitEscape (unit : Nat) : (unitEscape unit).toList = '\\' :: 'u' :: (Text.hexPadded 4 unit).toList := by
  rw [unitEscape, String.toList_append]
  rfl

theorem length_unitEscape {unit : Nat} (h : unit < 16 ^ 4) : (unitEscape unit).toList.length = 6 := by
  simp [toList_unitEscape, Text.length_hexPadded (show 0 < 4 by omega) h]

/-- A unit that is no surrogate is the character of its number. -/
theorem first?_unit {unit : Nat} (h : unit < 16 ^ 4) (hhigh : isHigh unit = false) (hlow : isLow unit = false)
    (rest : List Char) : first? ((unitEscape unit).toList ++ rest) = some (Char.ofNat unit, 5) := by
  rw [toList_unitEscape, List.cons_append, List.cons_append, first?, unitChar?, Text.code?_hexPadded (by omega) h]
  simp [hhigh, hlow]

/-- A pair of surrogates is one character. -/
theorem first?_pair {high low : Nat} (hhigh : isHigh high = true) (hlow : isLow low = true) (rest : List Char) :
    first? ((unitEscape high ++ unitEscape low).toList ++ rest) =
      some (Char.ofNat (0x10000 + 0x400 * (high - 0xd800) + (low - 0xdc00)), 11) := by
  have hhigh' : high < 16 ^ 4 := by
    have hbounds := isHigh_iff.1 hhigh
    omega
  have hlow' : low < 16 ^ 4 := by
    have hbounds := isLow_iff.1 hlow
    omega
  rw [String.toList_append, List.append_assoc, toList_unitEscape, List.cons_append, List.cons_append, first?, unitChar?,
    Text.code?_hexPadded (by omega) hhigh', List.drop_left' (Text.length_hexPadded (by omega) hhigh'),
    toList_unitEscape]
  simp [hhigh, hlow, Text.code?_hexPadded (by omega) hlow']

theorem exists_codeEscape (c : Char) : ∃ cs, (codeEscape c).toList = '\\' :: 'u' :: cs := by
  rw [codeEscape]
  split
  · exact ⟨_, toList_unitEscape _⟩
  · rw [String.toList_append, toList_unitEscape, List.cons_append, List.cons_append]
    exact ⟨_, rfl⟩

/-- A character by its code, in one unit or two, is found again. -/
theorem first?_codeEscape (c : Char) (rest : List Char) :
    first? ((codeEscape c).toList ++ rest) = some (c, (codeEscape c).toList.length - 1) := by
  have hvalid : c.toNat < 0xd800 ∨ 0xdfff < c.toNat ∧ c.toNat < 0x110000 := c.valid
  by_cases hunit : c.toNat < 0x10000
  · have hhigh : isHigh c.toNat = false := by
      rw [← Bool.not_eq_true, isHigh_iff]
      omega
    have hlow : isLow c.toNat = false := by
      rw [← Bool.not_eq_true, isLow_iff]
      omega
    rw [codeEscape, if_pos hunit, first?_unit hunit hhigh hlow, length_unitEscape hunit, Char.ofNat_toNat]
  · have hhigh : isHigh (0xd800 + (c.toNat - 0x10000) / 0x400) = true := by
      rw [isHigh_iff]
      omega
    have hlow : isLow (0xdc00 + (c.toNat - 0x10000) % 0x400) = true := by
      rw [isLow_iff]
      omega
    -- The two units together tell the code of the character.
    have hcode : 0x10000 + 0x400 * (0xd800 + (c.toNat - 0x10000) / 0x400 - 0xd800) +
        (0xdc00 + (c.toNat - 0x10000) % 0x400 - 0xdc00) = c.toNat := by omega
    rw [codeEscape, if_neg hunit, first?_pair hhigh hlow, String.toList_append, List.length_append,
      length_unitEscape (by omega), length_unitEscape (by omega), hcode, Char.ofNat_toNat]

/-- The three ways to write a character: a backslash and one more character, itself, or its code. -/
theorem writtenChar_cases (c : Char) :
    (∃ letter, (writtenChar c).toList = ['\\', letter] ∧ escaped? letter = some c ∧ letter ≠ 'u' ∧
        letter.toNat < 0x80) ∨
      ((writtenChar c).toList = [c] ∧ c ≠ '"' ∧ c ≠ '\\' ∧ 0x20 ≤ c.toNat ∧ c.toNat < 0x80) ∨
      writtenChar c = codeEscape c := by
  unfold writtenChar
  simp only [beq_iff_eq, Bool.and_eq_true, decide_eq_true_eq]
  split_ifs with hquote hslash hfeed hreturn htab hform hback hplain
  · exact .inl ⟨'"', by subst c; decide⟩
  · exact .inl ⟨'\\', by subst c; decide⟩
  · exact .inl ⟨'n', by subst c; decide⟩
  · exact .inl ⟨'r', by subst c; decide⟩
  · exact .inl ⟨'t', by subst c; decide⟩
  · exact .inl ⟨'f', by subst c; decide⟩
  · exact .inl ⟨'b', by subst c; decide⟩
  · exact .inr (.inl ⟨String.toList_singleton c, hquote, hslash, hplain.1, by omega⟩)
  · exact .inr (.inr rfl)

theorem undoes_writtenChar : Text.Undoes first? '"' (fun c => (writtenChar c).toList) where
  cons c := by
    obtain ⟨letter, hwritten, -⟩ | ⟨hwritten, hquote, -⟩ | hwritten := writtenChar_cases c
    · exact ⟨'\\', [letter], hwritten, by decide⟩
    · exact ⟨c, [], hwritten, hquote⟩
    · obtain ⟨cs, hcode⟩ := exists_codeEscape c
      rw [hwritten, hcode]
      exact ⟨'\\', _, rfl, by decide⟩
  first c rest := by
    obtain ⟨letter, hwritten, hletter, hunit, -⟩ | ⟨hwritten, -, hslash, hcontrol, -⟩ | hwritten := writtenChar_cases c
    · rw [hwritten, List.cons_append, List.cons_append, first?, hletter]
      · rfl
      · exact hunit
    · rw [hwritten, List.singleton_append, first?_plain hslash hcontrol]
      rfl
    · rw [hwritten, first?_codeEscape]

/-! ### Numerals stand for their numbers -/

theorem isWhole_toDigits (n : Nat) : isWhole (Nat.toDigits 10 n) = true := by
  by_cases hn : n = 0
  · subst n
    rfl
  · simp [isWhole, Text.head?_toDigits_ne_zero hn]

theorem unsigned?_toDigits (n : Nat) : unsigned? (Nat.toDigits 10 n) = some (n, 0) := by
  have hdigits := Text.isDigit_of_mem_toDigits n
  have hpoint : ∀ c ∈ Nat.toDigits 10 n, (c != '.') = true := by
    intro c hc
    exact bne_iff_ne.2 (ne_of_class (hdigits c hc) rfl)
  have hpower : ∀ c ∈ Nat.toDigits 10 n, (!isPowerMark c) = true := by
    intro c hc
    simp [isPowerMark, ne_of_class (d := 'e') (hdigits c hc) rfl, ne_of_class (d := 'E') (hdigits c hc) rfl]
  have hall : digits? (Nat.toDigits 10 n) = some (Nat.toDigits 10 n) := by
    rw [digits?, if_pos (by simpa using hdigits)]
  rw [unsigned?, List.takeWhile_eq_self_iff.2 hpower, List.dropWhile_eq_nil_iff.2 hpower, Text.cut,
    List.takeWhile_eq_self_iff.2 hpoint, List.dropWhile_eq_nil_iff.2 hpoint]
  simp [hall, fraction?, power?, isWhole_toDigits, Text.numberOf_toDigits]

theorem number?_integer (n : Int) : number? (Text.integer n).toList = some (.number n 0) := by
  cases n with
  | ofNat m =>
    obtain ⟨c, cs, hcons, hdigit⟩ := Text.exists_cons_toDigits m
    rw [Text.integer, Text.toList_numeral, hcons, number?, ← hcons, unsigned?_toDigits]
    · rfl
    · rintro more ⟨⟩
      cases hdigit
  | negSucc m =>
    rw [Text.toList_integer_negSucc, number?, unsigned?_toDigits]
    rfl

theorem scans_integer (n : Int) : Scans (Text.integer n).toList [.scalar (.number n 0)] := by
  have hne : (Text.integer n).toList ≠ [] := by
    intro h
    have hnumber := number?_integer n
    rw [h] at hnumber
    cases hnumber
  -- A numeral is none of the names, each of which has a letter.
  have hname : ∀ name : String, 'u' ∈ name.toList ∨ 'f' ∈ name.toList → (Text.integer n).toList ≠ name.toList := by
    rintro name (hletter | hletter) h
    all_goals
      rw [← h] at hletter
      exact absurd hletter (Text.not_mem_integer (by decide) (by decide) n)
  have hchars : ∀ c ∈ (Text.integer n).toList, isAtomChar c = true := Text.forall_mem_integer (by decide) (by decide) n
  refine scans_atom hne hchars ?_
  rw [atom?, if_neg (hname _ (by decide)), if_neg (hname _ (by decide)), if_neg (hname _ (by decide)), number?_integer]

/-! ### Cutting a written value into pieces -/

theorem toList_newLine (depth : Nat) : (newLine depth).toList = '\n' :: List.replicate (2 * depth) ' ' := by
  rw [newLine, String.toList_append, Text.toList_spaces]
  rfl

theorem isGap_of_mem_newLine (depth : Nat) : ∀ c ∈ (newLine depth).toList, isGap c = true := by
  rw [toList_newLine]
  refine List.forall_mem_cons.2 ⟨rfl, ?_⟩
  intro c hc
  rw [List.eq_of_mem_replicate hc]
  rfl

theorem apart_newLine (depth : Nat) (rest : List Char) : Apart ((newLine depth).toList ++ rest) := by
  rw [toList_newLine]
  exact apart_cons.2 rfl

theorem toList_writtenString (text : String) :
    (writtenString text).toList = '"' :: (text.toList.flatMap (fun c => (writtenChar c).toList) ++ ['"']) := by
  simp [writtenString, String.toList_join, List.flatMap_def, Function.comp_def]

theorem toList_bracketed_cons (depth : Nat) (opening closing part : String) (parts : List String) :
    (bracketed depth opening closing (part :: parts)).toList =
      opening.toList ++ ((newLine (depth + 1)).toList ++ (part.toList ++
        (parts.flatMap (fun p => ',' :: ((newLine (depth + 1)).toList ++ p.toList)) ++
          ((newLine depth).toList ++ closing.toList)))) := by
  simp [bracketed, String.toList_intercalate, intercalate_cons_eq, List.flatMap_map]

theorem exists_bracketed (depth : Nat) (opening closing : String) (parts : List String) :
    ∃ front, bracketed depth opening closing parts = front ++ closing := by
  unfold bracketed
  split
  · exact ⟨opening, rfl⟩
  · exact ⟨_, rfl⟩

/-- Texts behind commas, each on a line of its own, and what closes them. -/
theorem scans_parts {α : Type} {text : α → String} {ps : α → List JsonText.Piece} {xs : List α}
    (h : ∀ x ∈ xs, Scans (text x).toList (ps x)) (depth : Nat) {rest : List Char} {qs : List JsonText.Piece}
    (hrest : Scans rest qs) (hapart : Apart rest) :
    Scans (xs.flatMap (fun x => ',' :: ((newLine depth).toList ++ (text x).toList)) ++ rest)
        (xs.flatMap (fun x => .comma :: ps x) ++ qs) ∧
      Apart (xs.flatMap (fun x => ',' :: ((newLine depth).toList ++ (text x).toList)) ++ rest) := by
  induction xs with
  | nil => exact ⟨hrest, hapart⟩
  | cons x xs ih =>
    rw [List.forall_mem_cons] at h
    obtain ⟨hscans, hmore⟩ := ih h.2
    simp only [List.flatMap_cons, List.cons_append, List.append_assoc]
    refine ⟨?_, apart_cons.2 rfl⟩
    apply Scans.mark rfl
    apply Scans.gaps (isGap_of_mem_newLine depth)
    exact h.1.append hscans hmore

/-- Parts between brackets are cut into their own pieces, with commas between them. -/
theorem scans_bracketed {α : Type} {text : α → String} {ps : α → List JsonText.Piece} {xs : List α}
    (h : ∀ x ∈ xs, Scans (text x).toList (ps x)) (depth : Nat) {opening closing : String} {first last : Char}
    {start finish : JsonText.Piece} (hopening : opening.toList = [first]) (hstart : mark? first = some start)
    (hclosing : closing.toList = [last]) (hfinish : mark? last = some finish) :
    Scans (bracketed depth opening closing (xs.map text)).toList
      (start :: ([.comma].intercalate (xs.map ps) ++ [finish])) := by
  have hend : Scans [last] [finish] := Scans.mark hfinish scans_nil
  cases xs with
  | nil =>
    simp only [bracketed, List.map_nil, List.isEmpty_nil, if_true, String.toList_append, hopening, hclosing]
    exact Scans.mark hstart hend
  | cons x xs =>
    rw [List.forall_mem_cons] at h
    obtain ⟨hscans, hmore⟩ := scans_parts h.2 (depth + 1) (Scans.gaps (isGap_of_mem_newLine depth) hend)
      (apart_newLine depth [last])
    rw [List.map_cons, List.map_cons, toList_bracketed_cons, intercalate_cons_eq, hopening, hclosing, List.flatMap_map,
      List.flatMap_map, List.append_assoc]
    apply Scans.mark hstart
    apply Scans.gaps (isGap_of_mem_newLine (depth + 1))
    exact h.1.append hscans hmore

/-- A member is cut into its name, a colon and the pieces of its value. -/
theorem scans_plainMember {depth : Nat} {m : String × Json} (h : Scans (m.2.plain depth).toList m.2.pieces) :
    Scans (plainMember depth m).toList (.scalar (.string m.1) :: .colon :: m.2.pieces) := by
  have htext : (plainMember depth m).toList =
      (writtenString m.1).toList ++ ':' :: ([' '] ++ (m.2.plain depth).toList) := by
    simp [plainMember]
  rw [htext, toList_writtenString]
  apply (scans_string undoes_writtenChar m.1).append
  · apply Scans.mark rfl
    apply Scans.gaps (List.forall_mem_singleton.2 rfl) h
  · exact apart_cons.2 rfl

/-- **The written form of a value is cut into the value's pieces.** -/
theorem scans_plain (j : Json) (depth : Nat) : Scans (j.plain depth).toList j.pieces := by
  induction j using ind generalizing depth with
  | string text =>
    rw [plain_string, pieces, toList_writtenString]
    exact scans_string undoes_writtenChar text
  | integer n =>
    rw [plain_integer, pieces]
    exact scans_integer n
  | array items ih =>
    rw [plain_array, pieces]
    exact scans_bracketed (fun j hj => ih j hj _) depth rfl rfl rfl rfl
  | object members ih =>
    rw [plain_object, pieces]
    exact scans_bracketed (fun m hm => scans_plainMember (ih m hm _)) depth rfl rfl rfl rfl

/-- A text that is scanned as the pieces of a value stands for the value. -/
theorem read_of_scans {text : String} {j : Json} (h : Scans text.toList j.pieces) :
    JsonText.read text = some j.meaning := by
  have hvalue := j.value_pieces [] []
  rw [List.append_nil] at hvalue
  rw [JsonText.read, h.pieces_eq, Option.bind_some, hvalue, after]

/-- **The written form of a value stands for the value.** -/
theorem read_plain (j : Json) : JsonText.read (j.plain 0) = some j.meaning := read_of_scans (scans_plain j 0)

/-- A line feed behind the written form of a value does not matter. -/
theorem read_plain_feed (j : Json) : JsonText.read (j.plain 0 ++ "\n") = some j.meaning := by
  have hfeed : Scans (['\n'] ++ []) [] := Scans.gaps (by simp [JsonText.isGap]) JsonText.scans_nil
  have hscans := (scans_plain j 0).append hfeed (JsonText.apart_cons.2 rfl)
  apply read_of_scans
  rw [String.toList_append]
  simpa using hscans

/-! ### ASCII only -/

/-- `IsAscii text`: every character of the text is in ASCII. -/
def IsAscii (text : List Char) : Prop := ∀ c ∈ text, c.toNat < 0x80

theorem isAscii_append {a b : List Char} : IsAscii (a ++ b) ↔ IsAscii a ∧ IsAscii b := List.forall_mem_append

theorem isAscii_cons {c : Char} {text : List Char} : IsAscii (c :: text) ↔ c.toNat < 0x80 ∧ IsAscii text :=
  List.forall_mem_cons

theorem isAscii_flatMap {α : Type} {f : α → List Char} {xs : List α} (h : ∀ x ∈ xs, IsAscii (f x)) :
    IsAscii (xs.flatMap f) := by
  intro c hc
  obtain ⟨x, hx, hc⟩ := List.mem_flatMap.1 hc
  exact h x hx c hc

theorem isAscii_unitEscape (unit : Nat) : IsAscii (unitEscape unit).toList := by
  have hdigits : IsAscii (Text.hexPadded 4 unit).toList := Text.forall_mem_hexPadded (by decide) 4 unit
  rw [toList_unitEscape]
  exact isAscii_cons.2 ⟨by decide, isAscii_cons.2 ⟨by decide, hdigits⟩⟩

theorem isAscii_writtenString (text : String) : IsAscii (writtenString text).toList := by
  have hchars : IsAscii (text.toList.flatMap fun c => (writtenChar c).toList) := by
    apply isAscii_flatMap
    intro c _
    obtain ⟨letter, hwritten, -, -, hletter⟩ | ⟨hwritten, -, -, -, hplain⟩ | hwritten := writtenChar_cases c
    · rw [hwritten]
      simp [IsAscii, hletter]
    · rw [hwritten]
      simp [IsAscii, hplain]
    · rw [hwritten, codeEscape]
      split
      · exact isAscii_unitEscape _
      · rw [String.toList_append]
        exact isAscii_append.2 ⟨isAscii_unitEscape _, isAscii_unitEscape _⟩
  rw [toList_writtenString]
  exact isAscii_cons.2 ⟨by decide, isAscii_append.2 ⟨hchars, isAscii_cons.2 ⟨by decide, List.forall_mem_nil _⟩⟩⟩

theorem isAscii_newLine (depth : Nat) : IsAscii (newLine depth).toList := by
  intro c hc
  obtain rfl | rfl | rfl | rfl := isGap_iff.1 (isGap_of_mem_newLine depth c hc)
  all_goals decide

theorem isAscii_bracketed {parts : List String} (h : ∀ p ∈ parts, IsAscii p.toList) (depth : Nat)
    {opening closing : String} (hopening : IsAscii opening.toList) (hclosing : IsAscii closing.toList) :
    IsAscii (bracketed depth opening closing parts).toList := by
  cases parts with
  | nil =>
    simp only [bracketed, List.isEmpty_nil, if_true, String.toList_append]
    exact isAscii_append.2 ⟨hopening, hclosing⟩
  | cons part parts =>
    rw [List.forall_mem_cons] at h
    have hparts : IsAscii (parts.flatMap fun p => ',' :: ((newLine (depth + 1)).toList ++ p.toList)) := by
      apply isAscii_flatMap
      intro p hp
      exact isAscii_cons.2 ⟨by decide, isAscii_append.2 ⟨isAscii_newLine _, h.2 p hp⟩⟩
    rw [toList_bracketed_cons]
    simp only [isAscii_append]
    exact ⟨hopening, isAscii_newLine _, h.1, hparts, isAscii_newLine _, hclosing⟩

/-- **The written form of a value holds ASCII only.** -/
theorem isAscii_plain (j : Json) (depth : Nat) : IsAscii (j.plain depth).toList := by
  induction j using ind generalizing depth with
  | string text => exact isAscii_writtenString text
  | integer n => exact Text.forall_mem_integer (by decide) (by decide) n
  | array items ih =>
    rw [plain_array]
    refine isAscii_bracketed (List.forall_mem_map.2 fun j hj => ih j hj _) depth ?_ ?_
    all_goals simp [IsAscii]
  | object members ih =>
    rw [plain_object]
    refine isAscii_bracketed (List.forall_mem_map.2 fun m hm => ?_) depth ?_ ?_
    · simp only [plainMember, String.toList_append, isAscii_append]
      exact ⟨⟨isAscii_writtenString m.1, by simp [IsAscii]⟩, ih m hm _⟩
    all_goals simp [IsAscii]

end

end Json

/-! ### The dump of tokens -/

open JsonText (Value)

/-- A position as a dump tells it. -/
def Position.described (p : Position) : Value :=
  .object [("cursor", .number p.cursor 0), ("line", .number p.line 0), ("column", .number p.column 0)]

/-- A token as a dump tells it. -/
def Token.described (t : Token) : Value :=
  .object [("type", .string t.type.name), ("value", .string t.value), ("start", t.start.described),
    ("end", t.finish.described)]

theorem Position.described_injective : Function.Injective Position.described := by
  rintro ⟨cursor, lineNumber, column⟩ ⟨cursor', lineNumber', column'⟩ h
  simpa [described] using h

theorem Token.described_injective : Function.Injective Token.described := by
  rintro ⟨type, value, start, finish⟩ ⟨type', value', start', finish'⟩ h
  simpa [described, TokenType.name_inj, Position.described_injective.eq_iff] using h

theorem Token.meaning_toJson (t : Token) : t.toJson.meaning = t.described := by
  simp [Token.toJson, Position.toJson, Json.meaning, described, Position.described]

theorem jsonDump_eq (tokens : List Token) :
    jsonDump tokens = (Json.array (tokens.map Token.toJson)).plain 0 ++ "\n" := rfl

theorem meaning_tokens (tokens : List Token) :
    (Json.array (tokens.map Token.toJson)).meaning = .array (tokens.map Token.described) := by
  rw [Json.meaning, List.map_map]
  simp [Token.meaning_toJson]

theorem read_tokens (tokens : List Token) :
    JsonText.read ((Json.array (tokens.map Token.toJson)).plain 0) = some (.array (tokens.map Token.described)) := by
  rw [Json.read_plain, meaning_tokens]

theorem isAscii_jsonDump (tokens : List Token) : Json.IsAscii (jsonDump tokens).toList := by
  rw [jsonDump_eq, String.toList_append]
  exact Json.isAscii_append.2 ⟨Json.isAscii_plain _ 0, by simp [Json.IsAscii]⟩

/-- A JSON dump is one document, which ends with the bracket that closes its list, and a line feed behind it. -/
theorem exists_document (tokens : List Token) :
    ∃ document, jsonDump tokens = document ++ "\n" ∧ document.toList.getLast? = some ']' ∧
      JsonText.read document = some (.array (tokens.map Token.described)) := by
  obtain ⟨front, hfront⟩ := Json.exists_bracketed 0 "[" "]" ((tokens.map Token.toJson).map (Json.plain 1))
  refine ⟨_, jsonDump_eq tokens, ?_, read_tokens tokens⟩
  rw [Json.plain_array, hfront, String.toList_append]
  exact List.getLast?_concat

/-- **Different lists of tokens have different JSON dumps.** -/
theorem jsonDump_inj {tokens others : List Token} : jsonDump tokens = jsonDump others ↔ tokens = others := by
  constructor
  · intro h
    rw [jsonDump_eq, jsonDump_eq] at h
    have hdocument := (String.append_left_inj "\n").1 h
    have hread := read_tokens tokens
    rw [hdocument, read_tokens others] at hread
    have hlists := Value.array.inj (Option.some.inj hread)
    exact (Token.described_injective.list_map hlists).symm
  · rintro rfl
    rfl

end Stylesheet
