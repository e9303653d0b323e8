import SingleFile.Proofs.Expression.Commit
import SingleFile.Proofs.Template.Scan

/-!
# Templates — the expressions of a tree

The expressions of a template in the order of the walk, each with the
sizes of the delimiters around its code: those of the settings in a run
of text, and the quotes of the value in a directive. From these and the
place of an expression follows which text was handed over for it
(`Delimited.surrogate?`), so a finished tree still says what its script
reader was asked.

`revise` gives every expression of a tree another outcome and leaves all
else as it is.
-/

namespace SingleFile

namespace Template

/-- An expression, with the sizes of the delimiters around its code. -/
structure Delimited where
  container : Container
  openSize : Nat
  closeSize : Nat
  deriving Repr

namespace Delimited

variable (x : Delimited) (r : ExpressionReader)

/-- Where its code stands: between the delimiters, without the blanks at either end. -/
def code (t : Text) : Nat × Nat :=
  codeSpan t (x.container.place.range.start + x.openSize)
    (x.container.place.range.stop - x.closeSize)

/-- The text that is handed over for it. -/
def surrogate? : Option Text := r.surrogate? (x.code r.text).1 (x.code r.text).2

/-- How its code is read, after so many others. -/
def reading (n : Nat) : Emitted (Except SyntaxError ScriptNode) :=
  r.read (x.code r.text).1 (x.code r.text).2 n

/-- The error that some texts are refused with, if its own is among them. -/
def refusal? (errors : Text → Option SyntaxError) : Option SyntaxError :=
  (x.surrogate? r).bind errors

/-- The expression with an error in the place of what came of it. -/
def rejected (e : SyntaxError) : Delimited :=
  { x with container := ⟨x.container.place, .error e⟩ }

/-- The expression when those texts are refused. -/
def revise (errors : Text → Option SyntaxError) : Delimited :=
  match x.refusal? r errors with
  | some e => x.rejected e
  | none => x

end Delimited

/-! ## Expressions in the order of the walk -/

/-- The size of the quotes around an expression that is the value of an attribute. -/
def Container.quotes (k : Container) (t : Text) : Nat :=
  if k.place.range.start < k.place.range.stop ∧
      (t[k.place.range.start]? = some '"' ∨ t[k.place.range.start]? = some '\'') then 1 else 0

/-- The expression that is the value of an attribute, if it is one. -/
def AttributeContent.expressions (t : Text) : AttributeContent → List Delimited
  | .literal _ => []
  | .container k => [⟨k, k.quotes t, k.quotes t⟩]

/-- The expressions of an attribute. -/
def Attribute.expressions (t : Text) (a : Attribute) : List Delimited :=
  a.content.toList.flatMap (AttributeContent.expressions t)

mutual
/-- The expressions of a node and of all below it. -/
def Node.expressions (c : Context) : Node → List Delimited
  | .element _ _ _ _ attributes children =>
    attributes.flatMap (Attribute.expressions c.text) ++ Node.expressionsAll c children
  | .text _ => []
  | .container k => [⟨k, c.opening.length, c.closing.length⟩]

/-- The expressions of several nodes. -/
def Node.expressionsAll (c : Context) : List Node → List Delimited
  | [] => []
  | node :: nodes => node.expressions c ++ Node.expressionsAll c nodes
end

/-- The expressions of a document. -/
def Document.expressions (c : Context) (d : Document) : List Delimited :=
  Node.expressionsAll c d.children

/-- The expression that a node is. -/
def Item.container? : Item → Option Container
  | .container k => some k
  | _ => none

/-- The expressions of an attribute are those of its walk. -/
theorem Attribute.container_expressions (t : Text) (a : Attribute) :
    (a.expressions t).map Delimited.container = a.walk.filterMap Item.container? := by
  obtain ⟨place, key, content⟩ := a
  unfold expressions walk
  rcases content with _ | value | k <;> cases key <;> rfl

/-- And so for several attributes. -/
theorem Attribute.container_expressionsAll (t : Text) (as : List Attribute) :
    (as.flatMap (Attribute.expressions t)).map Delimited.container =
      (as.flatMap Attribute.walk).filterMap Item.container? := by
  induction as with
  | nil => rfl
  | cons a as ih =>
    rw [List.flatMap_cons, List.flatMap_cons, List.map_append, List.filterMap_append,
      a.container_expressions, ih]

mutual
/-- **The expressions of a node are those of its walk**, in the same order: neither tags nor
names are expressions. -/
theorem Node.container_expressions (c : Context) : ∀ node : Node,
    (node.expressions c).map Delimited.container = node.walk.filterMap Item.container?
  | .element place name opening closing attributes children => by
    have hclosing : (closing.toList.map Item.closingTag).filterMap Item.container? = [] := by
      cases closing <;> rfl
    rw [Node.expressions, Node.walk_element, List.map_append, Attribute.container_expressionsAll,
      Node.container_expressionsAll c children, List.filterMap_append, List.cons_append,
      List.cons_append, List.filterMap_cons_none rfl, List.filterMap_cons_none rfl,
      List.filterMap_append, hclosing, List.append_nil]
  | .text _ => by rw [Node.expressions, Node.walk_text]; rfl
  | .container _ => by rw [Node.expressions, Node.walk_container]; rfl

/-- And so for several nodes. -/
theorem Node.container_expressionsAll (c : Context) : ∀ nodes : List Node,
    (Node.expressionsAll c nodes).map Delimited.container =
      (Node.walkAll nodes).filterMap Item.container?
  | [] => by rw [Node.expressionsAll, Node.walkAll_nil]; rfl
  | node :: nodes => by
    rw [Node.expressionsAll, Node.walkAll_cons, List.map_append, List.filterMap_append,
      Node.container_expressions c node, Node.container_expressionsAll c nodes]
end

/-- **The expressions of a document are those of its walk.** -/
theorem Document.container_expressions (c : Context) (d : Document) :
    (d.expressions c).map Delimited.container =
      (Item.document d).walk.filterMap Item.container? := by
  rw [Item.walk_document, List.filterMap_cons_none rfl]
  exact Node.container_expressionsAll c d.children

/-! ## Other outcomes -/

/-- A value with another outcome of its expression. -/
def AttributeContent.revise (t : Text) (f : Delimited → Delimited) :
    AttributeContent → AttributeContent
  | .literal value => .literal value
  | .container k => .container (f ⟨k, k.quotes t, k.quotes t⟩).container

/-- An attribute with another outcome of its expression. -/
def Attribute.revise (t : Text) (f : Delimited → Delimited) (a : Attribute) : Attribute :=
  { a with content := a.content.map (AttributeContent.revise t f) }

mutual
/-- A node with other outcomes of its expressions. -/
def Node.revise (c : Context) (f : Delimited → Delimited) : Node → Node
  | .element place name opening closing attributes children =>
    .element place name opening closing (attributes.map (Attribute.revise c.text f))
      (Node.reviseAll c f children)
  | .text run => .text run
  | .container k => .container (f ⟨k, c.opening.length, c.closing.length⟩).container

/-- Several nodes with other outcomes of their expressions. -/
def Node.reviseAll (c : Context) (f : Delimited → Delimited) : List Node → List Node
  | [] => []
  | node :: nodes => node.revise c f :: Node.reviseAll c f nodes
end

/-- A document with other outcomes of its expressions. -/
def Document.revise (c : Context) (f : Delimited → Delimited) (d : Document) : Document :=
  { d with children := Node.reviseAll c f d.children }

/-- The expressions of nodes in sequence. -/
theorem Node.expressionsAll_append (c : Context) (xs ys : List Node) :
    Node.expressionsAll c (xs ++ ys) = Node.expressionsAll c xs ++ Node.expressionsAll c ys := by
  induction xs with
  | nil => rfl
  | cons x xs ih =>
    rw [List.cons_append, Node.expressionsAll, Node.expressionsAll, ih, List.append_assoc]

/-- Other outcomes for nodes in sequence. -/
theorem Node.reviseAll_append (c : Context) (f : Delimited → Delimited) (xs ys : List Node) :
    Node.reviseAll c f (xs ++ ys) = Node.reviseAll c f xs ++ Node.reviseAll c f ys := by
  induction xs with
  | nil => rfl
  | cons x xs ih => rw [List.cons_append, Node.reviseAll, Node.reviseAll, ih, List.cons_append]

end Template

end SingleFile
