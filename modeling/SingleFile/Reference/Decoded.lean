import SingleFile.Reference

/-!
# Decoded text with a map back to its source

`Decoded.ofText` replaces the character references of a text and keeps,
for every character of the result, the span of the source it came from.
The characters of one replacement share the span of their reference.
When nothing changes, offsets are mapped to themselves.
-/

namespace SingleFile

/-- A decoded character and the span of the source that produced it. -/
structure DecodedChar where
  char : Char
  start : Nat
  stop : Nat
  deriving DecidableEq, Repr

/-- A source text and its decoded characters. -/
structure Decoded where
  raw : Text
  chars : List DecodedChar
  deriving Repr

namespace Decoded

/-- The number of characters that the spelling of a reference takes after
its `&`: digits after `#` or `#x`, or a letter and further letters and
digits, each with an optional semicolon. -/
def spelling? (t : Text) : Option Nat :=
  match Reference.numeric? t with
  | some (_, used) => some used
  | none =>
    match t with
    | c :: u =>
      if c.isAlpha then some (Reference.semicolon t ((u.takeWhile Char.isAlphanum).length + 1))
      else none
    | [] => none

/-- The replacement of the reference at the start of what follows a `&`,
when it differs from its spelling, and the length of the spelling after
the `&`. -/
def replacement? (t : Text) : Option (Text × Nat) :=
  match spelling? t with
  | none => none
  | some used =>
    let spelling := '&' :: t.take used
    let value := Reference.unescape spelling
    if value = spelling then none else some (value, used)

/-- The decoded characters of a text that begins at `offset`, after skipping
characters that belong to a reference already replaced. -/
def charsFrom : (offset skip : Nat) → Text → List DecodedChar
  | _, _, [] => []
  | offset, skip + 1, _ :: t => charsFrom (offset + 1) skip t
  | offset, 0, c :: t =>
    match if c = '&' then replacement? t else none with
    | some (value, used) =>
      value.map (⟨·, offset, offset + 1 + used⟩) ++ charsFrom (offset + 1) used t
    | none => ⟨c, offset, offset + 1⟩ :: charsFrom (offset + 1) 0 t

/-- A text decoded, with its offset map. -/
def ofText (raw : Text) : Decoded := ⟨raw, charsFrom 0 0 raw⟩

/-- The decoded text. -/
def text (d : Decoded) : Text := d.chars.map (·.char)

/-- Whether decoding changed nothing. -/
def isIdentity (d : Decoded) : Bool := d.text == d.raw

/-- The source offset where the decoded character at an offset starts. -/
def rawStart (d : Decoded) (offset : Nat) : Nat :=
  if d.isIdentity then offset
  else
    match d.chars[offset]? with
    | some c => c.start
    | none => d.raw.length

/-- The source offset where the decoded character before an offset stops. -/
def rawStop (d : Decoded) : (offset : Nat) → Nat
  | 0 => 0
  | offset + 1 =>
    if d.isIdentity then offset + 1
    else
      match d.chars[offset]? with
      | some c => c.stop
      | none => d.raw.length

end Decoded

end SingleFile
