import SingleFile.Text

/-!
# Positions, ranges and locations in a text

A range is a half-open interval of offsets. A position is a line,
counted from one, and a column, counted from zero in its line; lines end
at LF, CR, CRLF, U+2028 and U+2029. Positions are found in two ways:
`LineIndex` looks an offset up among the heads of the lines, and
`Position.advance` walks over the characters from a known position.
-/

namespace SingleFile

/-- A line, counted from one, and a column, counted from zero. -/
structure Position where
  line : Int
  column : Int
  deriving DecidableEq, Repr

/-- The offsets from `start` up to, not including, `stop`. -/
structure Range where
  start : Nat
  stop : Nat
  start_le_stop : start ≤ stop := by omega
  deriving DecidableEq, Repr

/-- Where something begins and where it ends. -/
structure Location where
  start : Position
  stop : Position
  deriving DecidableEq, Repr

namespace Range

/-- The number of offsets in a range. -/
def size (r : Range) : Nat := r.stop - r.start

/-- The greatest number of offsets that are counted, that of a signed word of
64 bits. -/
def countLimit : Nat := 9223372036854775807

/-- The number of offsets in a range, unless there are too many to count. -/
def count? (r : Range) : Option Nat := if r.size ≤ countLimit then some r.size else none

/-- Whether every offset of `s` lies in `r`, and the ends of `s` with them. -/
def contains (r s : Range) : Bool := decide (r.start ≤ s.start ∧ s.stop ≤ r.stop)

/-- The range between two offsets that are in order and not negative. -/
def ofBounds? (start stop : Int) : Option Range :=
  if h : 0 ≤ start ∧ start ≤ stop then some ⟨start.toNat, stop.toNat, by omega⟩ else none

/-- The characters of a text that a range covers. -/
def of (t : Text) (r : Range) : Text := t.slice r.start r.stop

/-- A range is determined by its bounds. -/
theorem ofBounds?_eq_some_iff {start stop : Int} {r : Range} :
    ofBounds? start stop = some r ↔ start = r.start ∧ stop = r.stop := by
  unfold ofBounds?
  obtain ⟨s, e, h⟩ := r
  split
  · simp only [Option.some.injEq, mk.injEq]
    omega
  · simp only [reduceCtorEq, false_iff]
    omega

end Range

/-! ## Lines -/

namespace Text

/-- Whether a character ends a line; a CR and the LF after it end one line. -/
def isTerminator (c : Char) : Bool :=
  c = '\n' || c = '\r' || c = '\u2028' || c = '\u2029'

/-- The text with a space for every character that ends no line. -/
def blankOut (t : Text) : Text := t.map fun c => if isTerminator c then c else ' '

/-- The offsets just past each line end of a text that begins at `offset`. -/
def lineHeads (offset : Nat) : Text → List Nat
  | [] => []
  | '\r' :: '\n' :: t => (offset + 2) :: lineHeads (offset + 2) t
  | c :: t =>
    if isTerminator c then (offset + 1) :: lineHeads (offset + 1) t
    else lineHeads (offset + 1) t

end Text

/-- The position just past a text that begins at the given position. -/
def Position.advance (p : Position) : Text → Position
  | [] => p
  | '\r' :: '\n' :: t => advance ⟨p.line + 1, 0⟩ t
  | c :: t =>
    if Text.isTerminator c then advance ⟨p.line + 1, 0⟩ t else advance ⟨p.line, p.column + 1⟩ t

/-- The length of a text and the offsets at which its lines after the
first begin. -/
structure LineIndex where
  size : Nat
  heads : List Nat
  deriving Repr

namespace LineIndex

/-- The line index of a text. -/
def ofText (t : Text) : LineIndex := ⟨t.length, t.lineHeads 0⟩

/-- The number of lines. -/
def lineCount (index : LineIndex) : Nat := index.heads.length + 1

/-- The position of an offset that is not past the end: the lines passed
so far, and the distance from the head of the last of them. -/
def positionAt (index : LineIndex) (offset : Nat) : Position :=
  let passed := index.heads.takeWhile (· ≤ offset)
  ⟨passed.length + 1, offset - passed.getLastD 0⟩

/-- The position of an offset inside the text or at its end. -/
def position? (index : LineIndex) (offset : Int) : Option Position :=
  if 0 ≤ offset ∧ offset ≤ index.size then some (index.positionAt offset.toNat) else none

end LineIndex

end SingleFile
