import SingleFile.Reference.Decoded
import SingleFile.Template.Emission

/-!
# Expressions in place

The code of an expression is handed to the script reader behind a blanked
copy of the source before it, so that offsets, lines and columns come out
as in the source. An opening parenthesis takes the place of the nearest
character before the code that ends no line; a closing one follows the
code, on a line of its own when the code may end in a line comment. What
the reader returns is anchored back onto the source, through the offset
map of the character references in the code, and the tokens of the two
parentheses are dropped.
-/

namespace SingleFile

namespace Template

/-- What reading an expression needs: the source, the script reader, and
the name under which events are reported. -/
structure ExpressionReader where
  text : Text
  index : LineIndex
  parser : ScriptParser
  reporter : String

/-- An expression reader for a source text. -/
def ExpressionReader.ofText (text : Text) (parser : ScriptParser) (reporter : String) :
    ExpressionReader :=
  ⟨text, .ofText text, parser, reporter⟩

/-! ## The text handed over -/

/-- The source before the code, blanked, with the opening parenthesis in the
place of its last character that ends no line. -/
def wrapperLead? (before : Text) : Option Text :=
  match before.reverse.dropWhile Text.isTerminator with
  | [] => none
  | _ :: rest =>
    some (Text.blankOut rest.reverse ++
      '(' :: (before.reverse.takeWhile Text.isTerminator).reverse)

/-- What follows the code: a line comment in it must not swallow the
parenthesis. -/
def wrapperTail (code : Text) : Text :=
  if Text.holds ['/', '/'] code then ['\n', ')'] else [')']

/-- The text handed to the script reader for some code and the source before it. -/
def wrapped? (before code : Text) : Option Text :=
  (wrapperLead? before).map (· ++ code ++ wrapperTail code)

/-! ## The expression in the program -/

/-- The expression between the wrapping parentheses of a program: its only
statement is an expression statement that begins with them, they end with
the text handed over, and they hold one node. -/
def unwrapped? (program : Program) (size : Nat) : Option ScriptNode :=
  match program.body with
  | [statement] =>
    match statement.children with
    | [] => none
    | group :: _ =>
      match group.children with
      | [node] =>
        if statement.kind = "expression_statement" ∧ group.kind = "parenthesized_expression" ∧
            group.range.stop = size then some node
        else none
      | _ => none
  | _ => none

/-- The error that a program is not a single expression, at its first node
or at the end of the text handed over. -/
def notAnExpression (program : Program) (surrogate : Text) : Except Breach SyntaxError := do
  let index : Nat := match program.body with
    | [] => surrogate.length
    | node :: _ => node.range.start
  return ⟨"Expected a single expression", index,
    ← (LineIndex.ofText surrogate).position index⟩

/-! ## Anchoring -/

namespace ExpressionReader

/-- The source range of a range of the text handed over. -/
def sourceRange (start : Nat) (code : Decoded) (r : Range) : Except Breach Range :=
  if start ≤ r.start then
    Range.ofBounds (start + code.rawStart (r.start - start) : Nat)
      (start + code.rawStop (r.stop - start) : Nat)
  else .error (.precedesCode r.start start)

/-- The place in the source of a range of the text handed over. -/
def sourcePlace (r : ExpressionReader) (start : Nat) (code : Decoded) (span : Range) :
    Except Breach Place := do
  let range ← sourceRange start code span
  return ⟨range, ← r.index.location range.start range.stop⟩

/-- A token anchored onto the source. -/
def anchorToken (r : ExpressionReader) (start : Nat) (code : Decoded) (t : Token) :
    Except Breach Token := do
  let place ← r.sourcePlace start code t.range
  return ⟨t.kind, t.value, place.range.of r.text, place.range, place.location⟩

/-- A comment anchored onto the source. -/
def anchorComment (r : ExpressionReader) (start : Nat) (code : Decoded) (t : Token) :
    Except Breach Comment := do
  return ⟨← r.sourcePlace start code t.range, t.kind, t.value⟩

mutual
/-- A node and everything below it anchored onto the source. -/
def anchorNode (r : ExpressionReader) (start : Nat) (code : Decoded) :
    ScriptNode → Except Breach ScriptNode
  | ⟨kind, range, _, _, children⟩ => do
    let place ← r.sourcePlace start code range
    return ⟨kind, place.range, place.location, place.range.of r.text,
      ← anchorNodes r start code children⟩

/-- Several nodes anchored onto the source. -/
def anchorNodes (r : ExpressionReader) (start : Nat) (code : Decoded) :
    List ScriptNode → Except Breach (List ScriptNode)
  | [] => .ok []
  | node :: nodes => do
    return (← anchorNode r start code node) :: (← anchorNodes r start code nodes)
end

/-! ## Reading -/

/-- What comes of a program: the expression in it, or the error that there
is none. -/
def settle (program : Program) (surrogate : Text) :
    Emission (Except SyntaxError (Program × ScriptNode)) :=
  match unwrapped? program surrogate.length with
  | some node => return .ok (program, node)
  | none => return .error (← Emission.ofBreach (notAnExpression program surrogate))

/-- The tokens inside the wrapping parentheses, and the comments, anchored
and emitted; then the expression, anchored. -/
def commit (r : ExpressionReader) (start : Nat) (code : Decoded) (program : Program)
    (node : ScriptNode) : Emission ScriptNode := do
  if program.tokens.length < 2 then
    Emission.ofBreach (.error .wrapperDropped)
  let inner := (program.tokens.drop 1).dropLast
  let tokens ← Emission.ofBreach (inner.mapM (r.anchorToken start code))
  let comments ← Emission.ofBreach (program.comments.mapM (r.anchorComment start code))
  Emission.emitAll (tokens.map .token)
  Emission.emitAll (comments.map .comment)
  Emission.ofBreach (r.anchorNode start code node)

/-- The code between two offsets read as one expression, or the error for
which there is none. -/
def read (r : ExpressionReader) (start stop : Int) :
    Emission (Except SyntaxError ScriptNode) := do
  if ¬ (0 < start ∧ start ≤ stop ∧ stop ≤ r.text.length) then
    Emission.ofBreach (.error (.badCodeRange start stop))
  let code := Decoded.ofText (r.text.slice start stop)
  match wrapped? (r.text.take start.toNat) code.text with
  | none => Emission.ofBreach (.error .noWrapperRoom)
  | some surrogate =>
    let outcome ← match ← Emission.ask r.parser surrogate with
      | .ok program => settle program surrogate
      | .error e => pure (.error e)
    match outcome with
    | .ok (program, node) => return .ok (← r.commit start.toNat code program node)
    | .error e =>
      Emission.emit (.event (.expressionRejected r.reporter start stop e))
      return .error e

end ExpressionReader

end Template

end SingleFile
