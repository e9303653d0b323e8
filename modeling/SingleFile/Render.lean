import SingleFile.Component
import SingleFile.Value

/-!
# Listings and data of what was read

Tokens and nodes as values, with the fields in a fixed order, and as
lines of text. A token line has aligned columns. A tree has one line per
node, indented by two spaces per level, and below each expression one
line per node of its script.
-/

namespace SingleFile

namespace Render

/-! ## Values -/

/-- A position as a value. -/
def position (p : Position) : Value :=
  .record [("line", .integer p.line), ("column", .integer p.column)]

/-- A location as a value. -/
def location (l : Location) : Value :=
  .record [("start", position l.start), ("end", position l.stop)]

/-- A range as a value. -/
def range (r : Range) : Value := .array [.ofNat r.start, .ofNat r.stop]

/-- A token and its block as a value. -/
def token (region : Region) (t : Token) : Value :=
  .record [("region", .ofString region.name), ("kind", .ofString t.kind.name),
    ("value", .string t.value), ("raw", .string t.raw), ("range", range t.range),
    ("loc", location t.location)]

mutual
/-- A script node as a value. -/
def script : ScriptNode → Value
  | ⟨kind, span, _, raw, children⟩ =>
    .record [("type", .ofString kind), ("range", range span), ("raw", .string raw),
      ("children", .array (scripts children))]

/-- Script nodes as values. -/
def scripts : List ScriptNode → List Value
  | [] => []
  | node :: nodes => script node :: scripts nodes
end

/-- The fields that every node has. -/
def head (type : String) (place : Template.Place) : List (String × Value) :=
  [("type", .ofString type), ("range", range place.range), ("loc", location place.location)]

/-- An expression container as a value. -/
def container (c : Template.Container) : Value :=
  let (expression, error) := match c.outcome with
    | .ok node => (script node, Value.null)
    | .error e => (.null, .ofString e.text)
  .record (head "HTMLExpressionContainer" c.place ++
    [("expression", expression), ("syntaxError", error)])

/-- A plain name as a value. -/
def identifier (name : Template.Identifier) : Value :=
  .record (head "HTMLIdentifier" name.place ++ [("name", .string name.name)])

/-- A directive name as a value. -/
def directiveKey (key : Template.DirectiveKey) : Value :=
  .record (head "HTMLDirectiveKey" key.place ++
    [("name", .string key.parts.name), ("argument", .ofOption .string key.parts.argument),
     ("modifiers", .array (key.parts.modifiers.map .string)),
     ("shorthand", .boolean key.parts.isShorthand)])

/-- A run of text as a value. -/
def textRun (run : Template.TextRun) : Value :=
  .record (head "HTMLText" run.place ++ [("value", .string run.value), ("raw", .string run.raw)])

/-- A literal attribute value as a value. -/
def attributeValue (v : Template.AttributeValue) : Value :=
  .record (head "HTMLAttributeValue" v.place ++
    [("value", .string v.value), ("raw", .string v.raw)])

/-- A comment as a value. -/
def comment (c : Template.Comment) : Value :=
  .record (head "HTMLComment" c.place ++
    [("kind", .ofString c.kind.name), ("value", .string c.value)])

/-- An attribute as a value. -/
def attr (a : Template.Attribute) : Value :=
  let key := match a.key with
    | .identifier name => identifier name
    | .directive key => directiveKey key
  let value := match a.content with
    | none => Value.null
    | some (.literal v) => attributeValue v
    | some (.container c) => container c
  .record (head "HTMLAttribute" a.place ++ [("key", key), ("value", value)])

/-- A start tag as a value. -/
def openingTag (tag : Template.OpeningTag) : Value :=
  .record (head "HTMLStartTag" tag.place ++ [("selfClosing", .boolean tag.isSelfClosing)])

/-- An end tag as a value. -/
def closingTag (tag : Template.ClosingTag) : Value := .record (head "HTMLEndTag" tag.place)

mutual
/-- A node and everything below it as a value. -/
def item : Template.Item → Value
  | .root place children =>
    .record (head "HTMLDocument" place ++ [("children", .array (items children))])
  | .element place name opening closing attributes children =>
    .record (head "HTMLElement" place ++
      [("name", .string name), ("startTag", openingTag opening),
       ("attributes", .array (attributes.map attr)), ("children", .array (items children)),
       ("endTag", .ofOption closingTag closing)])
  | .openingTag tag => openingTag tag
  | .closingTag tag => closingTag tag
  | .attr a => attr a
  | .identifier name => identifier name
  | .directiveKey key => directiveKey key
  | .text run => textRun run
  | .attributeValue v => attributeValue v
  | .container c => container c
  | .comment c => comment c

/-- Nodes as values. -/
def items : List Template.Item → List Value
  | [] => []
  | i :: is => item i :: items is
end

/-- A document as a value. -/
def document (d : Template.Document) : Value := item (.document d)

/-! ## Lines -/

/-- A column: the text followed by spaces up to a width. -/
def column (width : Nat) (s : String) : String :=
  s ++ String.ofList (List.replicate (width - s.length) ' ')

/-- The line of a token. -/
def tokenLine (region : Region) (t : Token) : String :=
  let start := t.location.start
  let stop := t.location.stop
  let span := s!"{start.line}:{start.column}-{stop.line}:{stop.column}"
  s!"{column 9 region.name} {column 10 span} {column 19 t.kind.name} {quoted t.raw}"

/-- A line at a depth. -/
def indented (depth : Nat) (s : String) : String :=
  String.ofList (List.replicate (2 * depth) ' ') ++ s

mutual
/-- The lines of a script node that stands at a depth. -/
def scriptLines (depth : Nat) : ScriptNode → List String
  | ⟨kind, _, _, raw, children⟩ =>
    indented depth s!"{kind} {quoted raw}" :: scriptLinesAll (depth + 1) children

/-- The lines of several script nodes. -/
def scriptLinesAll (depth : Nat) : List ScriptNode → List String
  | [] => []
  | node :: nodes => scriptLines depth node ++ scriptLinesAll depth nodes
end

/-- The type and the range of a node. -/
def label (type : String) (place : Template.Place) : String :=
  s!"{type} [{place.range.start}, {place.range.stop})"

/-- A directive name as it reads in a line. -/
def directiveName (parts : DirectiveParts) : String :=
  let argument := match parts.argument with
    | none => ""
    | some a => if parts.isShorthand then a.toStr else s!":{a.toStr}"
  let modifiers := Text.toStr (parts.modifiers.flatMap fun m => '.' :: m)
  s!"{parts.name.toStr}{argument}{modifiers}"

/-- What the line of a node says. -/
def describe (i : Template.Item) : String :=
  let label := label i.typeName i.place
  match i with
  | .element _ name .. => s!"{label} {name.toStr}"
  | .identifier name => s!"{label} {name.name.toStr}"
  | .directiveKey key => s!"{label} {directiveName key.parts}"
  | .text run => s!"{label} {quoted run.raw}"
  | .attributeValue v => s!"{label} {quoted v.raw}"
  | .container c =>
    match c.outcome with
    | .ok _ => label
    | .error e => s!"{label} error: {e.text}"
  | _ => label

/-- The line of a node alone. -/
def line (depth : Nat) (i : Template.Item) : String := indented depth (describe i)

/-- The lines of an expression container. -/
def containerLines (depth : Nat) (c : Template.Container) : List String :=
  line depth (.container c) ::
    match c.outcome with
    | .ok node => scriptLines (depth + 1) node
    | .error _ => []

/-- The lines of an attribute. -/
def attrLines (depth : Nat) (a : Template.Attribute) : List String :=
  line depth (.attr a) :: line (depth + 1) a.key.item ::
    match a.content with
    | none => []
    | some (.literal v) => [line (depth + 1) (.attributeValue v)]
    | some (.container c) => containerLines (depth + 1) c

mutual
/-- The lines of a node that stands at a depth, and of everything below it. -/
def lines (depth : Nat) : Template.Item → List String
  | .root place children => line depth (.root place children) :: linesAll (depth + 1) children
  | .element place name opening closing attributes children =>
    line depth (.element place name opening closing attributes children) ::
      line (depth + 1) (.openingTag opening) :: attributes.flatMap (attrLines (depth + 1)) ++
        linesAll (depth + 1) children ++
        closing.toList.map fun tag => line (depth + 1) (.closingTag tag)
  | .attr a => attrLines depth a
  | .container c => containerLines depth c
  | i => [line depth i]

/-- The lines of several nodes. -/
def linesAll (depth : Nat) : List Template.Item → List String
  | [] => []
  | i :: is => lines depth i ++ linesAll depth is
end

/-- The lines of a document. -/
def documentLines (d : Template.Document) : List String := lines 0 (.document d)

end Render

end SingleFile
