import Mathlib.Data.Nat.Count
import SingleFile.Proofs.Grammar.Bytes

/-!
# Byte offsets — the table of boundaries

The boundaries of a text are the bytes before each of its offsets
(`boundaries_ofText`). They ascend (`bytesBefore_lt`), so the last one at
or before a byte need not be looked for along the table: halving finds it
(`charIndex_eq_search`). Each boundary but the first ends a character, so
what is found is the number of characters that end at or before the byte
(`charIndex_eq_count`). `offsets_convert` puts together what the
conversion keeps: the order of bytes, the boundaries, and the bytes of
what lies between two of them.
-/

namespace SingleFile

namespace Text

variable {t : Text} {a b : Nat}

/-- No bytes lie before the first character. -/
theorem bytesBefore_zero (t : Text) : t.bytesBefore 0 = 0 := rfl

/-- The encoding of a text holds its bytes. -/
theorem toUTF8_toStr (t : Text) : t.toStr.toUTF8 = t.bytes.toByteArray := rfl

/-- **A part is encoded as a part of the encoding**, the one between the bytes before its ends. -/
theorem toUTF8_slice (hab : a ≤ b) (hb : b ≤ t.length) :
    (t.slice a b).toStr.toUTF8 = t.toStr.toUTF8.extract (t.bytesBefore a) (t.bytesBefore b) := by
  apply ByteArray.ext
  rw [toUTF8_toStr, toUTF8_toStr, ByteArray.data_extract, List.data_toByteArray,
    List.data_toByteArray, List.extract_toArray, List.extract_eq_take_drop, bytes_slice hab hb,
    List.drop_take]

end Text

namespace ByteOffsets

open Text

variable {t : Text}

/-! ## The search by halving -/

/-- The place in the part of an ascending list from `low` up to `high` where the entries after
`bound` begin, found by halving the part. -/
def bisect (entries : List Nat) (bound : Int) (low high : Nat) (h : high ≤ entries.length) : Nat :=
  if hlt : low < high then
    let middle := (low + high) / 2
    have : middle < entries.length := by omega
    if bound < entries[middle] then bisect entries bound low middle (by omega)
    else bisect entries bound (middle + 1) high h
  else low
termination_by high - low

/-- The character offset of a byte offset, found by halving the boundaries. -/
def search (offsets : ByteOffsets) (byte : Int) : Nat :=
  bisect offsets.boundaries byte 0 offsets.boundaries.length (Nat.le_refl _) - 1

/-- **Halving finds the place** that parts the entries up to the bound from those after it, when
there is one in the part. -/
theorem bisect_eq {entries : List Nat} {bound : Int} {low high : Nat}
    {h : high ≤ entries.length} (place : Nat)
    (hplace : ∀ i (hi : i < entries.length), (entries[i] : Int) ≤ bound ↔ i < place)
    (hlow : low ≤ place) (hhigh : place ≤ high) : bisect entries bound low high h = place := by
  -- the place never leaves the part that is left
  fun_induction bisect entries bound low high h with
  | case1 low high h hlt middle hmiddle hafter ih =>
    have hbehind : ¬ middle < place := fun hbefore => by
      have := (hplace middle hmiddle).2 hbefore
      omega
    exact ih hlow (Nat.le_of_not_lt hbehind)
  | case2 low high h hlt middle hmiddle hupTo ih =>
    have hbefore : middle < place := (hplace middle hmiddle).1 (Int.not_lt.1 hupTo)
    exact ih hbefore hhigh
  | case3 low high h hdone => omega

/-! ## The table -/

/-- The boundaries after the characters of a text that begins at byte `start`. -/
theorem boundariesAfter_eq_map (start : Nat) (t : Text) :
    boundariesAfter start t = (List.range t.length).map fun i => start + t.bytesBefore (i + 1) := by
  induction t generalizing start with
  | nil => rfl
  | cons c t ih =>
    have hrest : ∀ i, start + bytesBefore (c :: t) (i + 1 + 1) =
        start + c.utf8Size + bytesBefore t (i + 1) := fun i => by
      rw [bytesBefore_cons, Nat.add_assoc]
    rw [boundariesAfter, ih, List.length_cons, List.range_succ_eq_map, List.map_cons,
      List.map_map, Nat.zero_add, bytesBefore_cons c t 0, bytesBefore_zero, Nat.add_zero]
    exact congrArg _ (List.map_congr_left fun i _ => (hrest i).symm)

/-- **The boundaries of a text** are the bytes before each of its offsets. -/
theorem boundaries_ofText (t : Text) :
    (ofText t).boundaries = (List.range (t.length + 1)).map t.bytesBefore := by
  change 0 :: boundariesAfter 0 t = _
  rw [boundariesAfter_eq_map, List.range_succ_eq_map, List.map_cons, List.map_map,
    bytesBefore_zero]
  exact congrArg _ (List.map_congr_left fun i _ => Nat.zero_add _)

/-- Each boundary is told by its place in the table. -/
theorem getElem_boundaries_ofText {i : Nat} (hi : i < (ofText t).boundaries.length) :
    (ofText t).boundaries[i] = t.bytesBefore i := by
  simp only [boundaries_ofText, List.getElem_map, List.getElem_range]

/-- **The number of characters that end at or before a byte** is what it is converted to. -/
theorem charIndex_eq_count (t : Text) (byte : Int) :
    (ofText t).charIndex byte =
      Nat.count (fun i => (t.bytesBefore (i + 1) : Int) ≤ byte) t.length := by
  have hends : ∀ i < t.length,
      ((t.bytesBefore (i + 1) : Int) ≤ byte ↔ i < (ofText t).charIndex byte) :=
    fun i hi => (le_charIndex_iff (Nat.succ_pos i) hi byte).symm
  obtain ⟨rest, hrest⟩ := Nat.exists_eq_add_of_le (charIndex_le t byte)
  have hfront : ∀ i < (ofText t).charIndex byte, (t.bytesBefore (i + 1) : Int) ≤ byte :=
    fun i hi => (hends i (by omega)).2 hi
  have hback : ∀ i < rest,
      ¬ (t.bytesBefore ((ofText t).charIndex byte + i + 1) : Int) ≤ byte := fun i hi hle => by
    have := (hends _ (by omega)).1 hle
    omega
  rw [hrest, Nat.count_add, Nat.count_of_forall hfront, Nat.count_of_forall_not hback,
    Nat.add_zero]

/-- Before the text no character has ended. -/
theorem charIndex_of_neg {byte : Int} (h : byte < 0) : (ofText t).charIndex byte = 0 := by
  rw [charIndex_eq_count]
  exact Nat.count_of_forall_not fun i _ => by omega

/-- From the end of the text on every character has ended. -/
theorem charIndex_of_length_le {byte : Int} (h : (t.bytes.length : Int) ≤ byte) :
    (ofText t).charIndex byte = t.length := by
  have hend : t.bytesBefore t.length = t.bytes.length := by
    rw [bytesBefore, List.take_length]
  rw [charIndex_eq_count]
  refine Nat.count_of_forall fun i hi => ?_
  have hle : t.bytesBefore (i + 1) ≤ t.bytesBefore t.length :=
    (bytesBefore_le_iff hi (Nat.le_refl _)).2 hi
  omega

/-- **Halving the boundaries finds the offset** that is found by going along them. -/
theorem charIndex_eq_search (t : Text) (byte : Int) :
    (ofText t).charIndex byte = (ofText t).search byte := by
  have hlength := length_boundaries_ofText t
  unfold search
  rcases Int.lt_or_le byte 0 with hneg | hpos
  · -- every boundary lies after the byte
    rw [charIndex_of_neg hneg, bisect_eq 0 (fun i hi => ?_) (Nat.le_refl 0) (Nat.zero_le _)]
    omega
  · -- the place is behind the boundary that is found, and the first one is not after the byte
    have hle := charIndex_le t byte
    rw [bisect_eq ((ofText t).charIndex byte + 1) (fun i hi => ?_) (Nat.zero_le _)
      (by omega), Nat.add_sub_cancel]
    rw [getElem_boundaries_ofText, Nat.lt_succ_iff]
    rcases Nat.eq_zero_or_pos i with rfl | hi'
    · exact iff_of_true hpos (Nat.zero_le _)
    · exact (le_charIndex_iff hi' (by omega) byte).symm

/-! ## What the conversion keeps -/

/-- **Byte offsets are converted faithfully.** Whatever the byte, it is converted to the number of
characters that end at or before it, which a search by halving finds; that is nothing before the
text and everything from its end on. Later bytes have later offsets, the bytes before an offset are
converted to the offset, and what lies between two boundaries is encoded as the bytes between
them. -/
theorem offsets_convert (t : Text) :
    (∀ byte : Int,
      (ofText t).charIndex byte = (ofText t).search byte ∧
        (ofText t).charIndex byte =
          Nat.count (fun i => (t.bytesBefore (i + 1) : Int) ≤ byte) t.length ∧
        (byte < 0 → (ofText t).charIndex byte = 0) ∧
        ((t.bytes.length : Int) ≤ byte → (ofText t).charIndex byte = t.length)) ∧
      (∀ a b : Int, a ≤ b → (ofText t).charIndex a ≤ (ofText t).charIndex b) ∧
      (∀ o ≤ t.length, (ofText t).charIndex (t.bytesBefore o) = o) ∧
      ∀ a b : Int, t.AtBoundary a → t.AtBoundary b → a ≤ b →
        (t.slice ((ofText t).charIndex a) ((ofText t).charIndex b)).toStr.toUTF8 =
          t.toStr.toUTF8.extract a.toNat b.toNat := by
  refine ⟨fun byte => ?_, fun _ _ hab => charIndex_mono _ hab, fun _ ho => charIndex_bytesBefore ho,
    fun a b ha hb hab => ?_⟩
  · exact ⟨charIndex_eq_search t byte, charIndex_eq_count t byte, charIndex_of_neg,
      charIndex_of_length_le⟩
  · have hstart := eq_bytesBefore_of_atBoundary ha
    have hstop := eq_bytesBefore_of_atBoundary hb
    have hfirst : a.toNat = t.bytesBefore ((ofText t).charIndex a) := by omega
    have hlast : b.toNat = t.bytesBefore ((ofText t).charIndex b) := by omega
    rw [hfirst, hlast]
    exact toUTF8_slice (charIndex_mono _ hab) (charIndex_le t b)

namespace Widths

/-- Characters of one, two, three and four bytes. -/
def text : Text := "aé€😀".toList

end Widths

/-- Bytes before the text, inside its third character and behind its end are converted, and the two
characters between bytes 1 and 6 have these bytes. -/
theorem offsets_convert_widths :
    Widths.text.AtBoundary 1 ∧ Widths.text.AtBoundary 6 ∧
      (ofText Widths.text).charIndex (-3) = 0 ∧ (ofText Widths.text).search 5 = 2 ∧
      (ofText Widths.text).charIndex 12 = 4 ∧
      Widths.text.toStr.toUTF8.extract 1 6 = (toStr "é€".toList).toUTF8 := by
  have hfirst : Widths.text.AtBoundary 1 := by decide
  have hlast : Widths.text.AtBoundary 6 := by decide
  obtain ⟨hbytes, -, -, hslice⟩ := offsets_convert Widths.text
  refine ⟨hfirst, hlast, (hbytes _).2.2.1 (by decide), (hbytes 5).1.symm.trans (by decide),
    (hbytes _).2.2.2 (by decide), ?_⟩
  exact (hslice 1 6 hfirst hlast (by decide)).symm.trans (by decide)

end ByteOffsets

end SingleFile
