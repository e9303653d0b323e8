import SingleFile.Location
import SingleFile.Text.Quoted

/-!
# Breaches — disagreements between a tree and its tokens

A `Breach` says how spans, tokens and entries fail to fit together or to
fit the text they are taken from. None of them is recovered from; each
has one message.
-/

namespace SingleFile

/-- The side of a token that a lookup is anchored on. -/
inductive Edge
  /-- The offset where a token starts. -/
  | start
  /-- The offset where a token ends. -/
  | stop
  deriving DecidableEq, Repr

/-- What does not fit. -/
inductive Breach
  /-- The bounds of a range are negative or out of order. -/
  | invalidRange (start stop : Int)
  /-- An offset lies outside a text of the given length. -/
  | offsetOutside (offset : Int) (size : Nat)
  /-- A mark on the source lies outside the source. -/
  | markOutside (start stop : Int)
  /-- A token is added to a store that takes no more. -/
  | storeSealed
  /-- A token starts before the last one of its store ends. -/
  | overlap (raw : Text) (start : Nat) (lastRaw : Text) (lastStop : Nat)
  /-- No token of a store has the asked edge. -/
  | noTokenAt (edge : Edge) (offset : Nat)
  /-- A lookup is to skip a negative number of tokens. -/
  | negativeSkip (skip : Int)
  /-- A code range is out of order, outside the text, or at its very start. -/
  | badCodeRange (start stop : Int)
  /-- Only line ends come before the code of an expression. -/
  | noWrapperRoom
  /-- A program does not hold the two tokens that wrap an expression. -/
  | wrapperDropped
  /-- Something reported for an expression lies before its code. -/
  | precedesCode (offset start : Nat)
  /-- An expression container has both an expression and an error, or neither. -/
  | containerParts
  /-- A document or a fragment stands among the entries of a template. -/
  | unexpectedEntry (name : String)
  /-- A transformer is used a second time. -/
  | transformerUsed
  deriving DecidableEq, Repr

namespace Breach

/-- The word for an edge in messages. -/
def edgeWord : Edge → String
  | .start => "start"
  | .stop => "end"

/-- The message of a breach. -/
def message : Breach → String
  | invalidRange start stop => s!"Invalid source range [{start}, {stop})"
  | offsetOutside offset size => s!"Offset {offset} outside source of length {size}"
  | markOutside start stop => s!"Markup location [{start}, {stop}) outside source"
  | storeSealed => "Token store is sealed"
  | overlap raw start lastRaw lastStop =>
    s!"Token {quoted raw} at {start} overlaps {quoted lastRaw} ending at {lastStop}"
  | noTokenAt edge offset => s!"No token {edgeWord edge}s at offset {offset}"
  | negativeSkip skip => s!"skip must be >= 0, got {skip}"
  | badCodeRange start stop => s!"Bad code range [{start}, {stop})"
  | noWrapperRoom => "No room for the wrapping parenthesis"
  | wrapperDropped => "Script parser dropped the wrapper parentheses"
  | precedesCode offset start => s!"Token at {offset} precedes code at {start}"
  | containerParts => "Expression container needs exactly one of expression/syntax_error"
  | unexpectedEntry name => s!"Unexpected {name} entry inside a template"
  | transformerUsed => "Transformer instances are single-use"

end Breach

namespace Range

/-- The range between two offsets, or the breach that there is none. -/
def ofBounds (start stop : Int) : Except Breach Range :=
  match ofBounds? start stop with
  | some r => .ok r
  | none => .error (.invalidRange start stop)

end Range

namespace LineIndex

/-- The position of an offset, or the breach that it lies outside. -/
def position (index : LineIndex) (offset : Int) : Except Breach Position :=
  match index.position? offset with
  | some p => .ok p
  | none => .error (.offsetOutside offset index.size)

/-- The location between two offsets; the start is looked up first. -/
def location (index : LineIndex) (start stop : Int) : Except Breach Location := do
  return ⟨← index.position start, ← index.position stop⟩

end LineIndex

end SingleFile
