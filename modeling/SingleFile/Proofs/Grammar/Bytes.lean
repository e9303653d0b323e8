import SingleFile.Proofs.Grammar.Spans

/-!
# Byte offsets — the bytes of a text

The bytes of a text are the UTF-8 encodings of its characters, one after
the other. A byte offset is converted to the number of characters that
end at or before it (`le_charIndex_iff`). One at the boundary of two
characters says how many bytes the characters before it take, and is
converted to their number (`charIndex_bytesBefore`); so the characters
that a span covers have the bytes of the span (`bytes_slice`).
-/

namespace SingleFile

namespace Text

variable {t : Text} {a b : Nat}

/-- The bytes of a text. -/
def bytes (t : Text) : List UInt8 := t.flatMap String.utf8EncodeChar

/-- The bytes before an offset. -/
def bytesBefore (t : Text) (o : Nat) : Nat := (bytes (t.take o)).length

/-- A byte offset lies before or behind a character of the text. -/
def AtBoundary (t : Text) (byte : Int) : Prop := ∃ o ≤ t.length, byte = t.bytesBefore o

instance (t : Text) (byte : Int) : Decidable (t.AtBoundary byte) := by
  unfold AtBoundary
  infer_instance

/-- The bytes of a text are those of its parts. -/
theorem bytes_append (t u : Text) : bytes (t ++ u) = bytes t ++ bytes u := List.flatMap_append

/-- The first character takes its bytes. -/
theorem bytesBefore_cons (c : Char) (t : Text) (o : Nat) :
    bytesBefore (c :: t) (o + 1) = c.utf8Size + bytesBefore t o := by
  unfold bytesBefore bytes
  rw [List.take_succ_cons, List.flatMap_cons, List.length_append, String.length_utf8EncodeChar]

/-- Each character takes a byte at least, so later offsets lie behind more bytes. -/
theorem bytesBefore_lt (hab : a < b) (hb : b ≤ t.length) : t.bytesBefore a < t.bytesBefore b := by
  induction t generalizing a b with
  | nil =>
    rw [List.length_nil] at hb
    omega
  | cons c t ih =>
    obtain ⟨b, rfl⟩ : ∃ k, b = k + 1 := ⟨b - 1, by omega⟩
    have hc := c.utf8Size_pos
    rw [bytesBefore_cons]
    cases a with
    | zero => exact Nat.lt_of_lt_of_le hc (Nat.le_add_right _ _)
    | succ a =>
      have hrest := ih (Nat.lt_of_succ_lt_succ hab) (Nat.le_of_succ_le_succ hb)
      rw [bytesBefore_cons]
      omega

/-- **Byte offsets keep the order of offsets.** -/
theorem bytesBefore_le_iff (ha : a ≤ t.length) (hb : b ≤ t.length) :
    t.bytesBefore a ≤ t.bytesBefore b ↔ a ≤ b := by
  constructor
  · intro hle
    by_contra hlt
    have := bytesBefore_lt (Nat.lt_of_not_le hlt) ha
    omega
  · intro hle
    rcases Nat.eq_or_lt_of_le hle with rfl | hlt
    · exact Nat.le_refl _
    · exact (bytesBefore_lt hlt hb).le

/-- **The bytes of a part** are those between the bytes before its ends. -/
theorem bytes_slice (hab : a ≤ b) (hb : b ≤ t.length) :
    bytes (t.slice a b) = ((bytes t).take (t.bytesBefore b)).drop (t.bytesBefore a) := by
  have hfront : bytes (t.take b) = bytes (t.take a) ++ bytes (t.slice a b) := by
    rw [← bytes_append, take_append_slice hb hab]
  have hwhole : bytes t = bytes (t.take b) ++ bytes (t.drop b) := by
    rw [← bytes_append, List.take_append_drop]
  rw [hwhole, bytesBefore, bytesBefore, List.take_left, hfront, List.drop_left]

end Text

namespace ByteOffsets

open Text

/-- The boundaries up to a byte are those of the characters that end at or before it. -/
theorem le_length_takeWhile_boundariesAfter {t : Text} {i : Nat} (hi : 0 < i) (hlen : i ≤ t.length)
    (start : Nat) (byte : Int) :
    i ≤ ((boundariesAfter start t).takeWhile fun b : Nat => ((b : Int) ≤ byte)).length ↔
      ((start + t.bytesBefore i : Nat) : Int) ≤ byte := by
  induction t generalizing i start with
  | nil =>
    rw [List.length_nil] at hlen
    omega
  | cons c t ih =>
    obtain ⟨k, rfl⟩ : ∃ k, i = k + 1 := ⟨i - 1, by omega⟩
    rw [boundariesAfter, bytesBefore_cons]
    by_cases hc : ((start + c.utf8Size : Nat) : Int) ≤ byte
    · rw [List.takeWhile_cons_of_pos (by rw [decide_eq_true_eq]; exact hc), List.length_cons,
        Nat.add_le_add_iff_right]
      rcases Nat.eq_zero_or_pos k with rfl | hk
      · exact iff_of_true (Nat.zero_le _) hc
      · rw [ih hk (Nat.le_of_succ_le_succ hlen), Nat.add_assoc]
    · rw [List.takeWhile_cons_of_neg (by rw [decide_eq_true_eq]; exact hc), List.length_nil]
      omega

/-- **A byte offset is converted to the number of characters that end at or before it**, wherever
it lies. -/
theorem le_charIndex_iff {t : Text} {i : Nat} (hi : 0 < i) (hlen : i ≤ t.length) (byte : Int) :
    i ≤ (ofText t).charIndex byte ↔ (t.bytesBefore i : Int) ≤ byte := by
  unfold charIndex ofText
  by_cases hbyte : (0 : Int) ≤ byte
  · have hboundaries := le_length_takeWhile_boundariesAfter hi hlen 0 byte
    rw [Nat.zero_add] at hboundaries
    rw [List.takeWhile_cons_of_pos (by rw [decide_eq_true_eq]; exact hbyte), List.length_cons,
      Nat.add_sub_cancel, hboundaries]
  · rw [List.takeWhile_cons_of_neg (by rw [decide_eq_true_eq]; exact hbyte), List.length_nil]
    omega

/-- **The byte offset of a boundary** is converted to the number of characters before it. -/
theorem charIndex_bytesBefore {t : Text} {o : Nat} (ho : o ≤ t.length) :
    (ofText t).charIndex (t.bytesBefore o) = o := by
  have hle := charIndex_le t (t.bytesBefore o)
  apply Nat.le_antisymm
  · rcases Nat.eq_zero_or_pos ((ofText t).charIndex (t.bytesBefore o)) with hzero | hpos
    · omega
    · have hbytes := (le_charIndex_iff hpos hle _).1 (Nat.le_refl _)
      exact (bytesBefore_le_iff hle ho).1 (Int.ofNat_le.1 hbytes)
  · rcases Nat.eq_zero_or_pos o with rfl | hpos
    · exact Nat.zero_le _
    · exact (le_charIndex_iff hpos ho _).2 (Int.le_refl _)

/-- A byte offset at a boundary stands before the characters that it is converted to. -/
theorem eq_bytesBefore_of_atBoundary {t : Text} {byte : Int} (h : t.AtBoundary byte) :
    byte = t.bytesBefore ((ofText t).charIndex byte) := by
  obtain ⟨o, ho, rfl⟩ := h
  rw [charIndex_bytesBefore ho]

end ByteOffsets

end SingleFile
