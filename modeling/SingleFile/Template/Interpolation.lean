import SingleFile.Text

/-!
# Interpolations in a run of text

An interpolation is an opening delimiter, at least one character, and the
nearest closing delimiter after that. Interpolations are looked for from
left to right, each search starting where the last one ended.
-/

namespace SingleFile

namespace Template

/-- The number of characters before the first occurrence of `part`. -/
def distanceTo? (part : Text) : Text → Option Nat
  | [] => if part = [] then some 0 else none
  | c :: t =>
    if Text.beginsWith (c :: t) part then some 0 else (distanceTo? part t).map (· + 1)

/-- The size of the interpolation at the start of a text. -/
def interpolationSize? (opening closing t : Text) : Option Nat :=
  match t.dropLead? opening with
  | some (_ :: body) =>
    (distanceTo? closing body).map fun n => opening.length + 1 + n + closing.length
  | _ => none

/-- The interpolations of a text that begins at `offset`, after skipping
characters that belong to one already found. -/
def interpolationsFrom (opening closing : Text) : (offset skip : Nat) → Text → List (Nat × Nat)
  | _, _, [] => []
  | offset, skip + 1, _ :: t => interpolationsFrom opening closing (offset + 1) skip t
  | offset, 0, c :: t =>
    match interpolationSize? opening closing (c :: t) with
    | some size =>
      (offset, offset + size) :: interpolationsFrom opening closing (offset + 1) (size - 1) t
    | none => interpolationsFrom opening closing (offset + 1) 0 t

/-- Where the interpolations between two offsets of a text start and stop. -/
def interpolations (opening closing text : Text) (start stop : Int) : List (Nat × Nat) :=
  let first := min start.toNat text.length
  let last := min stop.toNat text.length
  interpolationsFrom opening closing first 0 ((text.take last).drop first)

end Template

end SingleFile
