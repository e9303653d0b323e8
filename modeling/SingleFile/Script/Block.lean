import SingleFile.Markup
import SingleFile.Script

/-!
# The script block of a component

The text of a script element is padded in front with spaces and line
feeds, so that offsets and lines come out as in the source. The tags of
the element become tokens around the tokens of the script.
-/

namespace SingleFile

namespace Script

/-- The script text of an element, padded to its offset and line; an element
that does not begin with text has none. -/
def padded (source : Text) (script : Option Markup.Element) : Text :=
  match script.map (·.children) with
  | some (Markup.Entry.text m :: _) =>
    List.replicate (m.start - (m.line - 1)).toNat ' ' ++
      List.replicate (m.line - 1).toNat '\n' ++ m.of source
  | _ => []

/-- The token of a tag of the script element, if the tag is marked. -/
def tagToken (name : Text) (source : Text) (tag : Option Mark) : Except Breach (List Token) :=
  match tag with
  | none => .ok []
  | some m => do return [← Token.ofMark .punctuator name source m]

/-- A program with the tokens of the tags around its own; its range begins
where the start tag ends. -/
def withTags (source : Text) (program : Program) (mark : Markup.ElementMark) :
    Except Breach Program := do
  let before ← tagToken "<script>".toList source mark.startTag
  let after ← tagToken "</script>".toList source mark.endTag
  let start := match before with
    | [] => program.range.start
    | t :: _ => t.range.stop
  return { program with
    tokens := before ++ program.tokens ++ after
    range := ⟨start, max start program.range.stop, Nat.le_max_left _ _⟩ }

/-- The program of the script element of a component, if it has one. -/
def block (source : Text) (script : Option Markup.Element) (parser : ScriptParser)
    (asked : Nat) : Except Failure Program := do
  let program ← parser asked (padded source script)
  match script with
  | none => return program
  | some element => Failure.ofBreach (withTags source program element.mark)

end Script

end SingleFile
