import SingleFile.Failure

/-!
# Names in the source

Where a tag name or an attribute name starts and stops is found by
looking at single characters of the source: names hold no control, no
blank ASCII space, no quote, no `>`, `/` or `=`, and no noncharacter. A
character outside the source cannot be looked at, which ends the reading.
-/

namespace SingleFile

namespace Template

/-- Whether a character is a control, a delimiter of markup or a
noncharacter of the first plane. -/
def isDelimiter (c : Char) : Bool :=
  c.toNat ≤ 0x1f || (0x7f ≤ c.toNat && c.toNat ≤ 0x9f) ||
  [' ', '"', '\'', '>', '/', '='].contains c ||
  (0xfdd0 ≤ c.toNat && c.toNat ≤ 0xfdef) || c.toNat == 0xfffe || c.toNat == 0xffff

/-- Whether a character is one of the last two of a plane after the first. -/
def isPlaneEnd (c : Char) : Bool := 0x10000 ≤ c.toNat && 0xfffe ≤ c.toNat % 0x10000

/-- Whether a character may be part of a name. -/
def isNameChar (c : Char) : Bool := !(isDelimiter c || isPlaneEnd c)

/-- The character at an offset, which must lie inside the text. -/
def charAt (t : Text) (offset : Int) : Except Failure Char :=
  match t.at? offset with
  | some c => .ok c
  | none => .error .charOutside

/-- Whether the character at an offset may be part of a name. Delimiters are
looked for at the nearest offset that is not negative. -/
def isNameCharAt (t : Text) (offset : Int) : Except Failure Bool :=
  if (t[offset.toNat]?.any isDelimiter) then .ok false
  else (charAt t offset).map fun c => !isPlaneEnd c

/-- The first of some offsets upward at which a test on the text holds, or
the offset after them. -/
def skipUp (test : Int → Except Failure Bool) (offset : Int) : (count : Nat) → Except Failure Int
  | 0 => .ok offset
  | count + 1 => do if ← test offset then return offset else skipUp test (offset + 1) count

/-- Just past the first of some offsets downward at which a test on the text
holds, or the last of them; the offset given is itself just past the first
one tried. -/
def skipDown (test : Int → Except Failure Bool) (offset : Int) :
    (count : Nat) → Except Failure Int
  | 0 => .ok offset
  | count + 1 => do if ← test (offset - 1) then return offset else skipDown test (offset - 1) count

/-- The first offset of a name at or after `start`, or `limit`. -/
def nameStart (t : Text) (start limit : Int) : Except Failure Int :=
  skipUp (isNameCharAt t) start (limit - start).toNat

/-- The offset where a name that goes on at `start` stops, at most `limit`. -/
def nameRest (t : Text) (start limit : Int) : Except Failure Int :=
  skipUp (fun o => return !(← isNameCharAt t o)) start (limit - start).toNat

/-- Where the last name before `offset` stops, at least `floor`. -/
def nameStop (t : Text) (offset floor : Int) : Except Failure Int :=
  skipDown (isNameCharAt t) offset (offset - floor).toNat

end Template

end SingleFile
