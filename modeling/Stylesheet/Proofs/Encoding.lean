import Stylesheet.Text.Utf8
import Mathlib.Data.List.TakeWhile
import Mathlib.Tactic.SplitIfs

/-!
# What is encoded is decoded again

The octets of a text are read back as the text (`decode_encode`), wherever they begin. Each character
is written as a first octet, which announces how many follow and in which bounds the second must be,
and that many octets behind it (`spells_encodeChar`); so a text is decoded character by character.
-/

namespace Stylesheet.Text.Utf8

/-! ### First octets -/

theorem Lead.of?_one {o : UInt8} (h : o.toNat < 0x80) : Lead.of? o = some ⟨0, 0x80, 0xbf, o.toNat⟩ :=
  if_pos h

theorem Lead.of?_two {o : UInt8} (h : 0xc2 ≤ o.toNat) (h' : o.toNat < 0xe0) :
    Lead.of? o = some ⟨1, 0x80, 0xbf, o.toNat - 0xc0⟩ := by
  unfold Lead.of?
  rw [if_neg (by omega), if_neg (by omega), if_pos h']

theorem Lead.of?_three {o : UInt8} (h : 0xe0 ≤ o.toNat) (h' : o.toNat < 0xf0) :
    Lead.of? o = some ⟨2, if o.toNat = 0xe0 then 0xa0 else 0x80, if o.toNat = 0xed then 0x9f else 0xbf,
      o.toNat - 0xe0⟩ := by
  unfold Lead.of?
  rw [if_neg (by omega), if_neg (by omega), if_neg (by omega), if_pos h']

theorem Lead.of?_four {o : UInt8} (h : 0xf0 ≤ o.toNat) (h' : o.toNat < 0xf5) :
    Lead.of? o = some ⟨3, if o.toNat = 0xf0 then 0x90 else 0x80, if o.toNat = 0xf4 then 0x8f else 0xbf,
      o.toNat - 0xf0⟩ := by
  unfold Lead.of?
  rw [if_neg (by omega), if_neg (by omega), if_neg (by omega), if_neg (by omega), if_pos h']

/-! ### The octets behind them -/

/-- Octets within the bounds of a first one are found behind it, whatever follows them. -/
theorem Lead.tail_append {l : Lead} {second : UInt8} {more : List UInt8} (hcount : (second :: more).length = l.count)
    (hlow : l.low ≤ second.toNat) (hhigh : second.toNat ≤ l.high) (hmore : ∀ o ∈ more, isTail o = true)
    (rest : List UInt8) : l.tail (second :: more ++ rest) = second :: more := by
  have htake : (second :: more ++ rest).take l.count = second :: more := by rw [← hcount, List.take_left]
  have hrun : more.takeWhile isTail = more := List.takeWhile_eq_self_iff.2 hmore
  rw [Lead.tail, htake]
  simp only [hlow, hhigh, decide_true, Bool.and_self, if_true, hrun]

theorem toNat_ofNat {n : Nat} (h : n < 256) : (UInt8.ofNat n).toNat = n :=
  UInt8.toNat_ofNat_of_lt' h

theorem isTail_ofNat {n : Nat} (h : n < 64) : isTail (UInt8.ofNat (n + 128)) = true := by
  have hn : (UInt8.ofNat (n + 128)).toNat = n + 128 := toNat_ofNat (by omega)
  rw [isTail, hn]
  simp only [Bool.and_eq_true, decide_eq_true_eq]
  omega

/-- Octets whose bits are the code of a character stand for it. -/
theorem Lead.char_eq {l : Lead} {tail : List UInt8} {c : Char}
    (h : tail.foldl (fun n o => 64 * n + (o.toNat - 0x80)) l.bits = c.toNat) : l.char tail = c := by
  rw [Lead.char, h, Char.ofNat_toNat]

/-! ### Characters -/

/-- `Spells octets c`: the octets are a first one and those it announces, which are found behind it
whatever follows them, and together they stand for `c`. -/
def Spells (octets : List UInt8) (c : Char) : Prop :=
  ∃ first tail l, octets = first :: tail ∧ Lead.of? first = some l ∧ tail.length = l.count ∧
    (∀ rest, l.tail (tail ++ rest) = tail) ∧ l.char tail = c

section

variable {c : Char}

theorem spells_one (h : c.toNat ≤ 127) : Spells [UInt8.ofNat c.toNat] c := by
  have hfirst : (UInt8.ofNat c.toNat).toNat = c.toNat := toNat_ofNat (by omega)
  exact ⟨_, _, _, rfl, Lead.of?_one (by omega), rfl, fun _ => rfl, Lead.char_eq hfirst⟩

theorem spells_two (h : 127 < c.toNat) (h' : c.toNat ≤ 2047) :
    Spells [UInt8.ofNat (c.toNat / 64 % 32 + 192), UInt8.ofNat (c.toNat % 64 + 128)] c := by
  have hfirst : (UInt8.ofNat (c.toNat / 64 % 32 + 192)).toNat = c.toNat / 64 % 32 + 192 := toNat_ofNat (by omega)
  have hsecond : (UInt8.ofNat (c.toNat % 64 + 128)).toNat = c.toNat % 64 + 128 := toNat_ofNat (by omega)
  refine ⟨_, _, _, rfl, Lead.of?_two (by omega) (by omega), rfl,
    Lead.tail_append rfl ?_ ?_ (List.forall_mem_nil _), Lead.char_eq ?_⟩
  · simp only [hsecond]; omega
  · simp only [hsecond]; omega
  · simp only [List.foldl_cons, List.foldl_nil, hfirst, hsecond]; omega

/-- The bounds of the second octet keep out longer forms and surrogates. -/
theorem spells_three (h : 2047 < c.toNat) (h' : c.toNat ≤ 65535) (hvalid : c.toNat < 0xd800 ∨ 0xdfff < c.toNat) :
    Spells [UInt8.ofNat (c.toNat / 4096 % 16 + 224), UInt8.ofNat (c.toNat / 64 % 64 + 128),
      UInt8.ofNat (c.toNat % 64 + 128)] c := by
  have hfirst : (UInt8.ofNat (c.toNat / 4096 % 16 + 224)).toNat = c.toNat / 4096 % 16 + 224 := toNat_ofNat (by omega)
  have hsecond : (UInt8.ofNat (c.toNat / 64 % 64 + 128)).toNat = c.toNat / 64 % 64 + 128 := toNat_ofNat (by omega)
  have hthird : (UInt8.ofNat (c.toNat % 64 + 128)).toNat = c.toNat % 64 + 128 := toNat_ofNat (by omega)
  refine ⟨_, _, _, rfl, Lead.of?_three (by omega) (by omega), rfl,
    Lead.tail_append rfl ?_ ?_ (List.forall_mem_singleton.2 (isTail_ofNat (by omega))), Lead.char_eq ?_⟩
  · simp only [hfirst, hsecond]; split_ifs <;> omega
  · simp only [hfirst, hsecond]; split_ifs <;> omega
  · simp only [List.foldl_cons, List.foldl_nil, hfirst, hsecond, hthird]; omega

/-- Here the bounds keep out longer forms and codes that are too high. -/
theorem spells_four (h : 65535 < c.toNat) (h' : c.toNat < 0x110000) :
    Spells [UInt8.ofNat (c.toNat / 262144 % 8 + 240), UInt8.ofNat (c.toNat / 4096 % 64 + 128),
      UInt8.ofNat (c.toNat / 64 % 64 + 128), UInt8.ofNat (c.toNat % 64 + 128)] c := by
  have hfirst : (UInt8.ofNat (c.toNat / 262144 % 8 + 240)).toNat = c.toNat / 262144 % 8 + 240 :=
    toNat_ofNat (by omega)
  have hsecond : (UInt8.ofNat (c.toNat / 4096 % 64 + 128)).toNat = c.toNat / 4096 % 64 + 128 := toNat_ofNat (by omega)
  have hthird : (UInt8.ofNat (c.toNat / 64 % 64 + 128)).toNat = c.toNat / 64 % 64 + 128 := toNat_ofNat (by omega)
  have hfourth : (UInt8.ofNat (c.toNat % 64 + 128)).toNat = c.toNat % 64 + 128 := toNat_ofNat (by omega)
  refine ⟨_, _, _, rfl, Lead.of?_four (by omega) (by omega), rfl,
    Lead.tail_append rfl ?_ ?_ (List.forall_mem_cons.2 ⟨isTail_ofNat (by omega),
      List.forall_mem_singleton.2 (isTail_ofNat (by omega))⟩), Lead.char_eq ?_⟩
  · simp only [hfirst, hsecond]; split_ifs <;> omega
  · simp only [hfirst, hsecond]; split_ifs <;> omega
  · simp only [List.foldl_cons, List.foldl_nil, hfirst, hsecond, hthird, hfourth]; omega

end

/-- **A character is written as a first octet and those it announces**, and is the one that they
stand for. -/
theorem spells_encodeChar (c : Char) : Spells (String.utf8EncodeChar c) c := by
  have hvalid : c.toNat < 0xd800 ∨ 0xdfff < c.toNat ∧ c.toNat < 0x110000 := c.valid
  unfold String.utf8EncodeChar
  simp only [show c.val.toNat = c.toNat from rfl]
  split_ifs with hone htwo hthree
  · exact spells_one hone
  · exact spells_two (by omega) htwo
  · exact spells_three (by omega) hthree (by omega)
  · exact spells_four (by omega) (by omega)

/-! ### Texts -/

/-- Decoding goes on behind a first octet and those it announces. -/
theorem decodeFrom_lead {first : UInt8} {tail rest : List UInt8} {l : Lead} {more : List Char}
    (hlead : Lead.of? first = some l) (hcount : tail.length = l.count) (htail : l.tail (tail ++ rest) = tail)
    (position : Nat) (hmore : decodeFrom (position + 1 + l.count) rest = .ok more) :
    decodeFrom position (first :: (tail ++ rest)) = .ok (l.char tail :: more) := by
  have hrest : (tail ++ rest).drop l.count = rest := by rw [← hcount, List.drop_left]
  rw [decodeFrom, hlead]
  simp only [htail, hcount, if_true, hrest, hmore]
  rfl

/-- **The octets of a text are read back as the text**, wherever they begin. -/
theorem decodeFrom_encode (position : Nat) (text : List Char) : decodeFrom position (encode text) = .ok text := by
  induction text generalizing position with
  | nil => rw [encode, List.flatMap_nil, decodeFrom]
  | cons c text ih =>
    obtain ⟨first, tail, l, hencode, hlead, hcount, htail, hchar⟩ := spells_encodeChar c
    have hstep := decodeFrom_lead hlead hcount (htail (encode text)) position (ih _)
    rw [hchar] at hstep
    rw [encode, List.flatMap_cons, hencode]
    exact hstep

theorem decode_encode (text : List Char) : decode (encode text) = .ok text := decodeFrom_encode 0 text

end Stylesheet.Text.Utf8
