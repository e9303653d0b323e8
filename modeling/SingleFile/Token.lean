import SingleFile.Breach

/-!
# Tokens

A token is a lexical unit of markup or script with its place in the
source. It is made either from a range of the source, with the position
looked up, or from a mark, which brings the position along.
-/

namespace SingleFile

/-- The kinds of tokens. -/
inductive TokenKind
  | punctuator
  | htmlIdentifier
  | htmlText
  | htmlAttributeValue
  | htmlComment
  | identifier
  | keyword
  | numeric
  | string
  | template
  | regularExpression
  | boolean
  | null
  | line
  | block
  deriving DecidableEq, Repr

namespace TokenKind

/-- All kinds of tokens. -/
def all : List TokenKind :=
  [punctuator, htmlIdentifier, htmlText, htmlAttributeValue, htmlComment, identifier, keyword,
   numeric, string, template, regularExpression, boolean, null, line, block]

/-- The name of a kind in listings. -/
def name : TokenKind → String
  | punctuator => "Punctuator"
  | htmlIdentifier => "HTMLIdentifier"
  | htmlText => "HTMLText"
  | htmlAttributeValue => "HTMLAttributeValue"
  | htmlComment => "HTMLComment"
  | identifier => "Identifier"
  | keyword => "Keyword"
  | numeric => "Numeric"
  | string => "String"
  | template => "Template"
  | regularExpression => "RegularExpression"
  | boolean => "Boolean"
  | null => "Null"
  | line => "Line"
  | block => "Block"

/-- The kind of the given name. -/
def ofName? (s : String) : Option TokenKind := all.find? fun k => k.name == s

/-- Whether tokens of the kind are comments. -/
def isComment : TokenKind → Bool
  | htmlComment | line | block => true
  | _ => false

/-- Every kind is found by its name. -/
theorem ofName?_name (k : TokenKind) : ofName? k.name = some k := by
  cases k <;> decide

end TokenKind

/-- A place in the source as a markup reader marks it: offsets, and the
line and column of the start, both counted from one. -/
structure Mark where
  start : Int
  stop : Int
  line : Int
  column : Int
  deriving DecidableEq, Repr

namespace Mark

/-- The characters that a mark covers. -/
def of (source : Text) (m : Mark) : Text := source.slice m.start m.stop

end Mark

/-- A lexical unit: its kind, its meaning, its source text and its place. -/
structure Token where
  kind : TokenKind
  value : Text
  raw : Text
  range : Range
  location : Location
  deriving DecidableEq, Repr

namespace Token

/-- The token that covers a part of the source. Its meaning is its source
text unless a value is given. -/
def ofSource (kind : TokenKind) (source : Text) (index : LineIndex) (start stop : Int)
    (value : Option Text) : Except Breach Token := do
  let raw := source.slice start stop
  let range ← Range.ofBounds start stop
  let location ← index.location start stop
  return ⟨kind, value.getD raw, raw, range, location⟩

/-- The token that covers a mark. Its start is where the mark says, and its
end is found by walking over the source text from there. -/
def ofMark (kind : TokenKind) (value source : Text) (m : Mark) : Except Breach Token :=
  if h : 0 ≤ m.start ∧ m.start ≤ m.stop ∧ m.stop ≤ source.length then
    let raw := source.slice m.start m.stop
    let begin_ : Position := ⟨m.line, m.column - 1⟩
    .ok ⟨kind, value, raw, ⟨m.start.toNat, m.stop.toNat, by omega⟩,
      ⟨begin_, begin_.advance raw⟩⟩
  else .error (.markOutside m.start m.stop)

/-- A token lies before another when it ends where the other starts, or
earlier. -/
def Before (a b : Token) : Prop := a.range.stop ≤ b.range.start

instance (a b : Token) : Decidable (a.Before b) := by unfold Before; infer_instance

/-- A token that lies before one that lies before a third lies before it. -/
theorem Before.trans {a b c : Token} (hab : a.Before b) (hbc : b.Before c) : a.Before c := by
  have := b.range.start_le_stop
  unfold Before at *
  omega

end Token

end SingleFile
