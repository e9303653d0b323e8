import SingleFile.Grammar

/-!
# Byte offsets and character offsets

The spans of a concrete tree count bytes of the UTF-8 encoding of a text.
`ByteOffsets` keeps the byte offset of every character boundary and
converts a byte offset to the number of characters that end at or before
it.
-/

namespace SingleFile

/-- The byte offsets of the character boundaries of a text, beginning with
the start of the text. -/
structure ByteOffsets where
  boundaries : List Nat
  deriving DecidableEq, Repr

namespace ByteOffsets

/-- The byte offsets of the boundaries after each character of a text that
begins at byte `start`. -/
def boundariesAfter (start : Nat) : Text → List Nat
  | [] => []
  | c :: t => (start + c.utf8Size) :: boundariesAfter (start + c.utf8Size) t

/-- The byte offsets of a text. -/
def ofText (t : Text) : ByteOffsets := ⟨0 :: boundariesAfter 0 t⟩

/-- The character offset of a byte offset: the number of characters that end
at or before it. -/
def charIndex (offsets : ByteOffsets) (byte : Int) : Nat :=
  (offsets.boundaries.takeWhile fun (b : Nat) => (b : Int) ≤ byte).length - 1

/-- The character offsets where a node starts and stops. -/
def span (offsets : ByteOffsets) (node : Cst) : Nat × Nat :=
  (offsets.charIndex node.startByte, offsets.charIndex node.stopByte)

/-- The characters that a node covers in a text with these boundaries. -/
def slice (offsets : ByteOffsets) (t : Text) (node : Cst) : Text :=
  t.slice (offsets.charIndex node.startByte) (offsets.charIndex node.stopByte)

end ByteOffsets

end SingleFile
