import SingleFile.Location

/-!
# Spans — what holds an offset

A span is a pair of offsets. Spans that are apart, or that follow one
another, hold no offset in common, so a list of them holds every offset
at most once.
-/

namespace SingleFile

/-- The offsets of a range. -/
def Range.span (r : Range) : Nat × Nat := (r.start, r.stop)

/-- An offset lies in a span. -/
def holds (o : Nat) (s : Nat × Nat) : Bool := decide (s.1 ≤ o ∧ o < s.2)

/-- An offset lies in a span when it lies between its ends. -/
@[simp] theorem holds_eq_true {o : Nat} {s : Nat × Nat} : holds o s = true ↔ s.1 ≤ o ∧ o < s.2 :=
  decide_eq_true_iff

/-- Two spans are apart. -/
def Apart (a b : Nat × Nat) : Prop := a.2 ≤ b.1 ∨ b.2 ≤ a.1

instance (a b : Nat × Nat) : Decidable (Apart a b) := by unfold Apart; infer_instance

/-- Either of two spans that are apart is apart from the other. -/
theorem Apart.symm {a b : Nat × Nat} (h : Apart a b) : Apart b a := Or.symm h

/-- **Of spans that are apart at most one holds an offset.** -/
theorem countP_holds_le_one {ss : List (Nat × Nat)} {o : Nat} (h : ss.Pairwise Apart) :
    ss.countP (holds o) ≤ 1 := by
  induction h with
  | nil => exact Nat.zero_le 1
  | @cons s ss hs _ ih =>
    rw [List.countP_cons]
    cases hh : holds o s with
    | false => simpa using ih
    | true =>
      -- what is apart from a span that holds the offset cannot hold it too
      have hzero : ss.countP (holds o) = 0 := by
        rw [List.countP_eq_zero]
        intro s' hs' hh'
        rw [holds_eq_true] at hh hh'
        rcases hs s' hs' with h | h <;> omega
      simp [hzero]

end SingleFile
