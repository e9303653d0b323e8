import SingleFile.Failure
import SingleFile.Grammar.ByteOffsets
import SingleFile.Markup
import SingleFile.Reference

/-!
# Markup trees from concrete trees

The entries between two offsets are the elements, comments and other
structural children that lie there, and runs of text for the gaps
between them. A child that overlaps what came before it, or reaches past
the end, is left to the text around it, so the entries tile the source
whatever tree the grammar returned.
-/

namespace SingleFile

namespace Markup

/-- What the construction reads besides the tree: the source with its byte
and line offsets, and the tags that keep their children apart. -/
structure Source where
  text : Text
  offsets : ByteOffsets
  index : LineIndex
  containerTags : List Text

namespace Source

/-- A source text, with the names of container tags in lower case. -/
def ofText (text : Text) (containerTags : List Text) : Source :=
  ⟨text, .ofText text, .ofText text, containerTags.map Text.lower⟩

/-- The mark that covers a part of the source. -/
def mark (s : Source) (start stop : Nat) : Mark :=
  let position := s.index.positionAt start
  ⟨start, stop, position.line, position.column + 1⟩

/-- The mark that covers a node. -/
def markOf (s : Source) (node : Cst) : Mark :=
  s.mark (s.offsets.charIndex node.startByte) (s.offsets.charIndex node.stopByte)

/-- The run of text between two offsets, unless it is empty. -/
def gap (s : Source) (start stop : Nat) : List Entry :=
  if start < stop then [.text (s.mark start stop)] else []

end Source

/-- The kinds of element nodes. -/
def elementKinds : List String := ["element", "script_element", "style_element"]

/-- The kinds of other nodes that become entries, with the entries' names. -/
def otherNames : List (String × Text) :=
  [("doctype", "#documentType".toList), ("erroneous_end_tag", "#erroneousEndTag".toList)]

/-- The text of a comment without its delimiters. -/
def commentData (raw : Text) : Text :=
  if raw.endsWith ['-', '-', '>'] ∧ 7 ≤ raw.length then raw.slice 4 (-3) else raw.drop 4

/-- The value of an attribute node, unquoted: what its quotes hold, or the
bare value. -/
def rawValue (s : Source) (node : Cst) : Text :=
  match node.firstChild? ["quoted_attribute_value", "attribute_value"] with
  | none => []
  | some value =>
    if value.kind = "quoted_attribute_value" then
      match value.firstChild? ["attribute_value"] with
      | some inner => s.offsets.slice s.text inner
      | none => []
    else s.offsets.slice s.text value

/-- The attribute of an attribute node, if it has a name. -/
def attributeOf? (s : Source) (node : Cst) : Option Attribute :=
  if node.kind = "attribute" then
    (node.firstChild? ["attribute_name"]).map fun name =>
      ⟨s.offsets.slice s.text name, Reference.unescape (rawValue s node), s.markOf node⟩
  else none

/-- The attributes of a tag. -/
def attributesOf (s : Source) (tag : Cst) : List Attribute :=
  tag.namedChildren.filterMap (attributeOf? s)

/-- The parts of an element node that its entry is made of. -/
structure Tags where
  opening : Option Cst
  closing : Option Cst

namespace Tags

/-- The start tag and the end tag of an element node. A missing or empty end
tag is none. -/
def ofChildren (children : List Cst) : Tags :=
  ⟨children.find? fun c => ["start_tag", "self_closing_tag"].contains c.kind,
    (children.find? fun c => ["end_tag"].contains c.kind).filter fun c =>
      !(c.isMissing || c.stopByte == c.startByte)⟩

/-- Whether the start tag closes the element as well. -/
def isSelfClosing (tags : Tags) : Bool :=
  tags.opening.any fun c => c.kind == "self_closing_tag"

/-- The name of the element in lower case. -/
def name (s : Source) (tags : Tags) : Text :=
  match tags.opening.bind (·.firstChild? ["tag_name"]) with
  | some node => (s.offsets.slice s.text node).lower
  | none => []

end Tags

mutual
/-- The entry of a node, if nodes of its kind become entries. -/
def entryOf (s : Source) : Cst → Option Entry
  | ⟨kind, startByte, stopByte, _, _, _, children⟩ =>
    let start := s.offsets.charIndex startByte
    let stop := s.offsets.charIndex stopByte
    if elementKinds.contains kind then
      let tags := Tags.ofChildren children
      let opening := tags.opening.map s.markOf
      let closing := tags.closing.map s.markOf
      let attributes := (tags.opening.map (attributesOf s)).getD []
      let first := (tags.opening.map fun c => s.offsets.charIndex c.stopByte).getD start
      let last := (tags.closing.map fun c => s.offsets.charIndex c.startByte).getD stop
      let entries := if tags.isSelfClosing then [] else entriesOf s first last children
      let name := tags.name s
      let mark : ElementMark := ⟨s.mark start stop, opening, closing⟩
      if s.containerTags.contains name then
        some (.element name mark attributes [] (some entries))
      else some (.element name mark attributes entries none)
    else if kind = "comment" then
      some (.comment (commentData (s.text.slice start stop)) (s.mark start stop))
    else (otherNames.lookup kind).map fun name => .other name (s.mark start stop)

/-- The entries from `cursor` up to `stop`: the given nodes that fit there,
and the text between them. -/
def entriesOf (s : Source) (cursor stop : Nat) : List Cst → List Entry
  | [] => s.gap cursor stop
  | node :: nodes =>
    let first := s.offsets.charIndex node.startByte
    let last := s.offsets.charIndex node.stopByte
    match entryOf s node with
    | none => entriesOf s cursor stop nodes
    | some entry =>
      if first < cursor ∨ stop < last then entriesOf s cursor stop nodes
      else s.gap cursor first ++ entry :: entriesOf s last stop nodes
end

/-- The markup document of a text whose concrete tree is given. -/
def Document.ofTree (text : Text) (containerTags : List Text) (root : Cst) : Document :=
  ⟨entriesOf (.ofText text containerTags) 0 text.length root.children⟩

end Markup

end SingleFile
