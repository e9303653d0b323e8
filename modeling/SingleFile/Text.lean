/-!
# Texts — sequences of characters addressed by offset

A `Text` is its list of characters and an offset counts characters. The
operations here take integer offsets as a caller may hand them over: a
negative offset counts from the end of the text, a bound of a slice is
moved to the nearest place inside the text, and a single character is
asked for with `at?`, which answers only inside the text.
-/

namespace SingleFile

/-- A text is the sequence of its characters. -/
abbrev Text := List Char

namespace Text

/-- The place inside the text that a slice bound stands for: a negative
bound counts from the end, and bounds outside are moved to the nearest end. -/
def bound (t : Text) (offset : Int) : Nat :=
  if offset < 0 then (t.length + offset).toNat else min offset.toNat t.length

/-- The characters from `start` up to `stop`, which is empty when the
bounds are not in order. -/
def slice (t : Text) (start stop : Int) : Text :=
  (t.take (t.bound stop)).drop (t.bound start)

/-- The character at an offset; a negative offset counts from the end. -/
def at? (t : Text) (offset : Int) : Option Char :=
  if offset < 0 then
    if 0 ≤ t.length + offset then t[(t.length + offset).toNat]? else none
  else t[offset.toNat]?

/-- The first place from `start` up to `stop` that holds the character `c`. -/
def find? (t : Text) (c : Char) (start stop : Int) : Option Nat :=
  ((t.slice start stop).findIdx? (· == c)).map (t.bound start + ·)

/-- The rest of the text after `lead`, when the text begins with it. -/
def dropLead? : (t lead : Text) → Option Text
  | t, [] => some t
  | [], _ :: _ => none
  | b :: t, a :: lead => if a = b then dropLead? t lead else none

/-- Whether the text begins with `lead`. -/
def beginsWith (t lead : Text) : Bool := (t.dropLead? lead).isSome

/-- Whether the text ends with `tail`. -/
def endsWith (t tail : Text) : Bool := tail.reverse.isPrefixOf t.reverse

/-- Whether `part` occurs in the text. -/
def holds (part : Text) : Text → Bool
  | [] => part.isEmpty
  | c :: t => beginsWith (c :: t) part || holds part t

/-- The pieces of the text between the occurrences of `c`; there is always
a first piece, and each occurrence adds one. -/
def pieces (c : Char) : Text → Text × List Text
  | [] => ([], [])
  | d :: t =>
    let (head, rest) := pieces c t
    if d = c then ([], head :: rest) else (d :: head, rest)

/-- The pieces of the text with `sep` put between them. -/
def joinWith (sep : Text) : List Text → Text
  | [] => []
  | [t] => t
  | t :: u :: ts => t ++ sep ++ joinWith sep (u :: ts)

/-- The text as a string. -/
def toStr (t : Text) : String := String.ofList t

/-- Cutting a text at a bound never changes how far the bound reaches. -/
theorem bound_le_length (t : Text) (offset : Int) : t.bound offset ≤ t.length := by
  unfold bound
  split <;> omega

/-- Inside the text a bound is the offset itself. -/
theorem bound_of_le {t : Text} {offset : Nat} (h : offset ≤ t.length) :
    t.bound offset = offset := by
  unfold bound
  rw [if_neg (by omega)]
  exact Nat.min_eq_left h

/-- What `dropLead?` returns is what follows the lead. -/
theorem dropLead?_eq_some_iff {lead t rest : Text} :
    t.dropLead? lead = some rest ↔ t = lead ++ rest := by
  induction lead generalizing t with
  | nil => simp [dropLead?]
  | cons a lead ih =>
    cases t with
    | nil => simp [dropLead?]
    | cons b t =>
      by_cases h : a = b
      · simp [dropLead?, h, ih]
      · simp [dropLead?, h, Ne.symm h]

/-- A text begins with its prefixes. -/
theorem beginsWith_iff_isPrefix {t lead : Text} : t.beginsWith lead = true ↔ lead <+: t := by
  unfold beginsWith
  rw [Option.isSome_iff_exists]
  simp only [dropLead?_eq_some_iff]
  exact exists_congr fun _ => eq_comm

end Text

end SingleFile
