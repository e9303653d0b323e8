import SingleFile.Text

/-!
# Texts without control sequences

What is printed may go to a file. A terminal's control sequence, an
escape character and a bracket with parameters and a final letter, is
left out of it; an escape character that begins no sequence stays.
-/

namespace SingleFile

namespace Text

/-- Whether a character may stand between the bracket of a control sequence
and its final letter. -/
def isParameter (c : Char) : Bool := c.isDigit || c = ';' || c = '?'

/-- The number of characters that a control sequence takes after its escape
character, when the text begins with the rest of one. -/
def controlSize? : Text → Option Nat
  | '[' :: t =>
    match t.dropWhile isParameter with
    | c :: _ => if c.isAlpha then some ((t.takeWhile isParameter).length + 2) else none
    | [] => none
  | _ => none

/-- The text without control sequences, after skipping characters that
belong to a sequence already left out. -/
def plainFrom : (skip : Nat) → Text → Text
  | _, [] => []
  | skip + 1, _ :: t => plainFrom skip t
  | 0, c :: t =>
    match if c = '\x1b' then controlSize? t else none with
    | some size => plainFrom size t
    | none => c :: plainFrom 0 t

/-- The text without control sequences. -/
def plain (t : Text) : Text := plainFrom 0 t

/-- A text without escape characters is left as it is. -/
theorem plain_eq_self {t : Text} (h : '\x1b' ∉ t) : t.plain = t := by
  unfold plain
  induction t with
  | nil => rfl
  | cons c t ih =>
    have hc : c ≠ '\x1b' := fun e => h (e ▸ List.mem_cons_self ..)
    simp [plainFrom, hc, ih fun m => h (List.mem_cons_of_mem _ m)]

end Text

end SingleFile
