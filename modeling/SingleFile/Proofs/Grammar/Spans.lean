import SingleFile.Grammar.ByteOffsets
import SingleFile.Proofs.Text.Run

/-!
# Byte offsets — the order of what they convert to

Character offsets of bytes lie in the text, and later bytes have later
offsets. So the spans of a concrete tree keep their order.
-/

namespace SingleFile

namespace ByteOffsets

/-- A text has a boundary after each of its characters. -/
theorem length_boundariesAfter (start : Nat) (t : Text) :
    (boundariesAfter start t).length = t.length := by
  induction t generalizing start with
  | nil => rfl
  | cons c t ih => rw [boundariesAfter, List.length_cons, List.length_cons, ih]

/-- And one before them. -/
theorem length_boundaries_ofText (t : Text) : (ofText t).boundaries.length = t.length + 1 := by
  unfold ofText
  rw [List.length_cons, length_boundariesAfter]

/-- A byte is converted to an offset in the text. -/
theorem charIndex_le (t : Text) (byte : Int) : (ofText t).charIndex byte ≤ t.length := by
  have hle := (List.takeWhile_prefix (fun b : Nat => decide ((b : Int) ≤ byte))
    (l := (ofText t).boundaries)).length_le
  have hlen := length_boundaries_ofText t
  unfold charIndex
  omega

/-- A later byte is converted to a later offset. -/
theorem charIndex_mono (offsets : ByteOffsets) {a b : Int} (h : a ≤ b) :
    offsets.charIndex a ≤ offsets.charIndex b := by
  have hle : (offsets.boundaries.takeWhile fun i : Nat => decide ((i : Int) ≤ a)).length ≤
      (offsets.boundaries.takeWhile fun i : Nat => decide ((i : Int) ≤ b)).length := by
    refine Text.length_takeWhile_le (fun i hi => ?_) _
    rw [decide_eq_true_eq] at hi ⊢
    omega
  unfold charIndex
  omega

end ByteOffsets

end SingleFile
