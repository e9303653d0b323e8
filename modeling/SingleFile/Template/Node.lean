import SingleFile.Directive
import SingleFile.Failure
import SingleFile.Script

/-!
# Template nodes

The nodes of a template. Tags, attributes, keys and values have types of
their own; `Item` covers them all, in trees where any node may stand among
the children of a document or an element. `Item.walk` lists a node with
everything below it. The tree of a transformed template is a `Document`,
whose elements hold nothing but elements, text runs and expressions;
`Item.document` is that tree as one of any nodes.
-/

namespace SingleFile

namespace Template

/-- Where a node stands in the source. -/
structure Place where
  range : Range
  location : Location
  deriving DecidableEq, Repr

/-- A plain attribute name or a tag name. -/
structure Identifier where
  place : Place
  name : Text
  deriving DecidableEq, Repr

/-- An attribute name taken apart as a directive. -/
structure DirectiveKey where
  place : Place
  parts : DirectiveParts
  deriving DecidableEq, Repr

/-- A run of text, with its character references replaced in `value`. -/
structure TextRun where
  place : Place
  value : Text
  raw : Text
  deriving DecidableEq, Repr

/-- The literal value of a plain attribute. -/
structure AttributeValue where
  place : Place
  value : Text
  raw : Text
  deriving DecidableEq, Repr

/-- An expression, or the error for which there is none. -/
structure Container where
  place : Place
  outcome : Except SyntaxError ScriptNode
  deriving Repr

/-- A container from its two parts, of which exactly one is present. -/
def Container.ofParts (place : Place) (expression : Option ScriptNode)
    (error : Option SyntaxError) : Except Breach Container :=
  match expression, error with
  | some node, none => .ok ⟨place, .ok node⟩
  | none, some e => .ok ⟨place, .error e⟩
  | _, _ => .error .containerParts

/-- A comment of the markup or of an expression; it stands outside the tree. -/
structure Comment where
  place : Place
  kind : TokenKind
  value : Text
  deriving DecidableEq, Repr

/-- The name of an attribute. -/
inductive Key
  | identifier (name : Identifier)
  | directive (key : DirectiveKey)
  deriving DecidableEq, Repr

/-- The value of an attribute that has one. -/
inductive AttributeContent
  | literal (value : AttributeValue)
  | container (expression : Container)
  deriving Repr

/-- An attribute. -/
structure Attribute where
  place : Place
  key : Key
  content : Option AttributeContent
  deriving Repr

/-- Whether an attribute is a directive. -/
def Attribute.isDirective (a : Attribute) : Bool :=
  match a.key with
  | .identifier _ => false
  | .directive _ => true

/-- A start tag. -/
structure OpeningTag where
  place : Place
  isSelfClosing : Bool
  deriving DecidableEq, Repr

/-- An end tag. -/
structure ClosingTag where
  place : Place
  deriving DecidableEq, Repr

/-- A node among the children that a transformation makes. -/
inductive Node
  | element (place : Place) (name : Text) (opening : OpeningTag) (closing : Option ClosingTag)
      (attributes : List Attribute) (children : List Node)
  | text (run : TextRun)
  | container (expression : Container)
  deriving Repr

/-- The root of a transformed template. -/
structure Document where
  place : Place
  children : List Node
  deriving Repr

/-! ## All nodes alike -/

/-- Any node, with any nodes below it. -/
inductive Item
  | root (place : Place) (children : List Item)
  | element (place : Place) (name : Text) (opening : OpeningTag) (closing : Option ClosingTag)
      (attributes : List Attribute) (children : List Item)
  | openingTag (tag : OpeningTag)
  | closingTag (tag : ClosingTag)
  | attr (a : Attribute)
  | identifier (name : Identifier)
  | directiveKey (key : DirectiveKey)
  | text (run : TextRun)
  | attributeValue (value : AttributeValue)
  | container (expression : Container)
  | comment (c : Comment)
  deriving Repr

mutual
/-- A child as an item. -/
def Node.item : Node → Item
  | .element place name opening closing attributes children =>
    .element place name opening closing attributes (Node.items children)
  | .text run => .text run
  | .container c => .container c

/-- Children as items. -/
def Node.items : List Node → List Item
  | [] => []
  | node :: nodes => node.item :: Node.items nodes
end

/-- Each child becomes an item. -/
theorem Node.items_eq_map (nodes : List Node) : Node.items nodes = nodes.map Node.item := by
  induction nodes with
  | nil => rfl
  | cons node nodes ih => rw [items, ih, List.map_cons]

/-- A key as an item. -/
def Key.item : Key → Item
  | identifier name => .identifier name
  | directive key => .directiveKey key

/-- An attribute's value as an item. -/
def AttributeContent.item : AttributeContent → Item
  | literal value => .attributeValue value
  | container c => .container c

namespace Item

/-- A transformed document as an item. -/
def document (d : Document) : Item := root d.place (Node.items d.children)

/-- The name of the type of a node. -/
def typeName : Item → String
  | root .. => "HTMLDocument"
  | element .. => "HTMLElement"
  | openingTag _ => "HTMLStartTag"
  | closingTag _ => "HTMLEndTag"
  | attr _ => "HTMLAttribute"
  | identifier _ => "HTMLIdentifier"
  | directiveKey _ => "HTMLDirectiveKey"
  | text _ => "HTMLText"
  | attributeValue _ => "HTMLAttributeValue"
  | container _ => "HTMLExpressionContainer"
  | comment _ => "HTMLComment"

/-- Where a node stands. -/
def place : Item → Place
  | root place _ => place
  | element place .. => place
  | openingTag tag => tag.place
  | closingTag tag => tag.place
  | attr a => a.place
  | identifier name => name.place
  | directiveKey key => key.place
  | text run => run.place
  | attributeValue value => value.place
  | container c => c.place
  | comment c => c.place

/-- The nodes directly below a node, in source order. -/
def children : Item → List Item
  | root _ children => children
  | element _ _ opening closing attributes children =>
    openingTag opening :: attributes.map attr ++ children ++ closing.toList.map closingTag
  | attr a => a.key.item :: (a.content.map AttributeContent.item).toList
  | _ => []

end Item

/-! ## Walks -/

/-- An attribute with everything below it. -/
def Attribute.walk (a : Attribute) : List Item :=
  .attr a :: a.key.item :: (a.content.map AttributeContent.item).toList

mutual
/-- A node with everything below it, in source order: tags and attributes
come before the children of an element. -/
def Item.walk : Item → List Item
  | .root place children => .root place children :: Item.walkAll children
  | .element place name opening closing attributes children =>
    .element place name opening closing attributes children :: .openingTag opening ::
      attributes.flatMap Attribute.walk ++ Item.walkAll children ++
        closing.toList.map .closingTag
  | .attr a => a.walk
  | item => [item]

/-- Several nodes with everything below them. -/
def Item.walkAll : List Item → List Item
  | [] => []
  | item :: items => item.walk ++ Item.walkAll items
end

/-- A child with everything below it. -/
def Node.walk (node : Node) : List Item := node.item.walk

/-- Several children with everything below them. -/
def Node.walkAll (nodes : List Node) : List Item := Item.walkAll (Node.items nodes)

theorem Node.walk_element {place : Place} {name : Text} {opening : OpeningTag}
    {closing : Option ClosingTag} {attributes : List Attribute} {children : List Node} :
    (element place name opening closing attributes children).walk =
      .element place name opening closing attributes (Node.items children) ::
        .openingTag opening :: attributes.flatMap Attribute.walk ++ Node.walkAll children ++
          closing.toList.map .closingTag := rfl

theorem Node.walk_text {run : TextRun} : (text run).walk = [.text run] := rfl

theorem Node.walk_container {c : Container} : (container c).walk = [.container c] := rfl

theorem Node.walkAll_nil : Node.walkAll [] = [] := rfl

theorem Node.walkAll_cons {node : Node} {nodes : List Node} :
    Node.walkAll (node :: nodes) = node.walk ++ Node.walkAll nodes := rfl

theorem Item.walk_document {d : Document} :
    (Item.document d).walk = .document d :: Node.walkAll d.children := rfl

/-! ## Parents -/

/-- The place in the walk of each node's parent, `base` being the place of
the first node listed. -/
def Attribute.parents (base : Nat) (parent : Option Nat) (a : Attribute) : List (Option Nat) :=
  parent :: (a.walk.drop 1).map fun _ => some base

/-- The parents of the nodes in the walks of several attributes. -/
def Attribute.parentsAll (parent : Option Nat) : (base : Nat) → List Attribute → List (Option Nat)
  | _, [] => []
  | base, a :: rest =>
    a.parents base parent ++ parentsAll parent (base + a.walk.length) rest

mutual
/-- The parents of the nodes in the walk of a node. -/
def Item.parents (base : Nat) (parent : Option Nat) : Item → List (Option Nat)
  | .root _ children => parent :: Item.parentsAll (base + 1) (some base) children
  | .element _ _ _ closing attributes children =>
    parent :: some base :: Attribute.parentsAll (some base) (base + 2) attributes ++
      Item.parentsAll (base + 2 + (attributes.flatMap Attribute.walk).length) (some base)
        children ++ closing.toList.map fun _ => some base
  | .attr a => a.parents base parent
  | _ => [parent]

/-- The parents of the nodes in the walks of several nodes. -/
def Item.parentsAll (base : Nat) (parent : Option Nat) : List Item → List (Option Nat)
  | [] => []
  | item :: items =>
    item.parents base parent ++ Item.parentsAll (base + item.walk.length) parent items
end

/-- For every node of the walk of a document, the place of its parent in the
walk; the document has none. -/
def Document.parents (d : Document) : List (Option Nat) := (Item.document d).parents 0 none

end Template

end SingleFile
