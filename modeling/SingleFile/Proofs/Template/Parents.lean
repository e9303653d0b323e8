import Mathlib.Data.List.Forall2
import SingleFile.Template.Node

/-!
# Template nodes — parents in the walk

The walk of a document lists every node after the one it hangs under, and
`Document.parents` gives for each the place of that one in the walk. The two are
written apart, each counting on its own how far a part of the tree reaches in the
list; that they agree is followed part by part (`linked_item`). Every node but the
document is therefore a child of the one whose place it is given
(`Document.exists_parent`).
-/

namespace SingleFile

namespace Template

/-- The nodes of several children and more. -/
theorem Node.walkAll_append (xs ys : List Node) :
    Node.walkAll (xs ++ ys) = Node.walkAll xs ++ Node.walkAll ys := by
  induction xs with
  | nil => rfl
  | cons x xs ih =>
    rw [List.cons_append, Node.walkAll_cons, Node.walkAll_cons, ih, List.append_assoc]

/-- Nodes that stand in a list from some place on. -/
def ListedAt (whole : List Item) (base : Nat) (xs : List Item) : Prop :=
  ∀ i x, xs[i]? = some x → whole[base + i]? = some x

/-- Nodes with parents: each is a child of the node that stands in the list at the place it is
given. -/
def Linked (whole : List Item) (xs : List Item) (places : List (Option Nat)) : Prop :=
  List.Forall₂ (fun x place => ∃ j y, place = some j ∧ whole[j]? = some y ∧ x ∈ y.children) xs
    places

variable {whole xs ys : List Item} {base j : Nat} {x y : Item}

/-- The first of them stands at that place, the others behind it. -/
theorem ListedAt.of_cons (h : ListedAt whole base (x :: xs)) :
    whole[base]? = some x ∧ ListedAt whole (base + 1) xs := by
  refine ⟨h 0 x rfl, fun i z hz => ?_⟩
  rw [show base + 1 + i = base + (i + 1) by omega]
  exact h (i + 1) z hz

/-- What comes first stands there, and the rest where it ends. -/
theorem ListedAt.of_append (h : ListedAt whole base (xs ++ ys)) :
    ListedAt whole base xs ∧ ListedAt whole (base + xs.length) ys := by
  refine ⟨fun i z hz => h i z ?_, fun i z hz => ?_⟩
  · rwa [List.getElem?_append_left (List.getElem?_eq_some_iff.1 hz).1]
  · rw [Nat.add_assoc]
    refine h _ z ?_
    rwa [List.getElem?_append_right (Nat.le_add_right _ _), Nat.add_sub_cancel_left]

/-- Children of one node, all given its place. -/
theorem linked_map_const {α : Type} {l : List α} {f : α → Item} (hy : whole[j]? = some y)
    (h : ∀ a ∈ l, f a ∈ y.children) : Linked whole (l.map f) (l.map fun _ => some j) := by
  induction l with
  | nil => exact .nil
  | cons a l ih =>
    obtain ⟨ha, hl⟩ := List.forall_mem_cons.1 h
    exact .cons ⟨j, y, rfl, hy, ha⟩ (ih hl)

/-- An attribute below a node, and what is below the attribute. -/
theorem linked_attribute {a : Attribute} (hwhole : ListedAt whole base a.walk)
    (hy : whole[j]? = some y) (ha : .attr a ∈ y.children) :
    Linked whole a.walk (a.parents base (some j)) := by
  have hbelow := linked_map_const (l := (Item.attr a).children) (f := id) hwhole.of_cons.1
    fun _ h => h
  rw [List.map_id] at hbelow
  exact .cons ⟨j, y, rfl, hy, ha⟩ hbelow

/-- Several attributes below a node. -/
theorem linked_attributes {as : List Attribute}
    (hwhole : ListedAt whole base (as.flatMap Attribute.walk)) (hy : whole[j]? = some y)
    (has : ∀ a ∈ as, .attr a ∈ y.children) :
    Linked whole (as.flatMap Attribute.walk) (Attribute.parentsAll (some j) base as) := by
  induction as generalizing base with
  | nil => exact .nil
  | cons a as ih =>
    obtain ⟨ha, has⟩ := List.forall_mem_cons.1 has
    obtain ⟨hfirst, hrest⟩ := hwhole.of_append
    exact List.rel_append (linked_attribute hfirst hy ha) (ih hrest has)

mutual
/-- **A node with all below it.** -/
theorem linked_item : ∀ {x : Item} {base j : Nat} {y : Item}, ListedAt whole base x.walk →
    whole[j]? = some y → x ∈ y.children → Linked whole x.walk (x.parents base (some j))
  | .root place children, base, j, y => by
    intro hwhole hy hx
    rw [Item.walk] at hwhole ⊢
    obtain ⟨hroot, hchildren⟩ := hwhole.of_cons
    rw [Item.parents]
    exact .cons ⟨j, y, rfl, hy, hx⟩ (linked_items hchildren hroot fun _ h => h)
  | .element place name opening closing attributes children, base, j, y => by
    intro hwhole hy hx
    rw [Item.walk] at hwhole ⊢
    obtain ⟨hfront, hclosing⟩ := hwhole.of_append
    obtain ⟨htop, hchildren⟩ := hfront.of_append
    obtain ⟨helement, htop⟩ := htop.of_cons
    obtain ⟨-, hattributes⟩ := htop.of_cons
    -- the parts of the walk are below the element, which stands at `base`
    have hbelow : ∀ z, z ∈ (Item.element place name opening closing attributes children).children ↔
        z = .openingTag opening ∨ z ∈ attributes.map Item.attr ∨ z ∈ children ∨
          z ∈ closing.toList.map Item.closingTag := by
      intro z
      simp [Item.children]
    have hopens := (hbelow (.openingTag opening)).2 (.inl rfl)
    have has := linked_attributes hattributes helement fun a ha =>
      (hbelow (.attr a)).2 (.inr (.inl (List.mem_map_of_mem ha)))
    rw [show base + ((Item.element place name opening closing attributes children ::
        Item.openingTag opening :: attributes.flatMap Attribute.walk)).length =
      base + 2 + (attributes.flatMap Attribute.walk).length by
        simp only [List.length_cons]
        omega] at hchildren
    have hinner := linked_items hchildren helement fun z hz =>
      (hbelow z).2 (.inr (.inr (.inl hz)))
    have hcloses := linked_map_const (l := closing.toList) (f := Item.closingTag) helement
      fun tag htag => (hbelow (.closingTag tag)).2 (.inr (.inr (.inr (List.mem_map_of_mem htag))))
    rw [Item.parents]
    refine List.rel_append (List.rel_append ?_ hinner) hcloses
    exact .cons ⟨j, y, rfl, hy, hx⟩ (.cons ⟨base, _, rfl, helement, hopens⟩ has)
  | .attr a, _, _, _ => fun hwhole hy hx => linked_attribute hwhole hy hx
  | .openingTag _, _, j, y | .closingTag _, _, j, y | .identifier _, _, j, y
  | .directiveKey _, _, j, y | .text _, _, j, y | .attributeValue _, _, j, y
  | .container _, _, j, y | .comment _, _, j, y => fun _ hy hx => .cons ⟨j, y, rfl, hy, hx⟩ .nil

/-- And several. -/
theorem linked_items : ∀ {xs : List Item} {base j : Nat} {y : Item},
    ListedAt whole base (Item.walkAll xs) → whole[j]? = some y → (∀ x ∈ xs, x ∈ y.children) →
    Linked whole (Item.walkAll xs) (Item.parentsAll base (some j) xs)
  | [], _, _, _ => fun _ _ _ => .nil
  | x :: xs, base, j, y => by
    intro hwhole hy hxs
    obtain ⟨hx, hxs⟩ := List.forall_mem_cons.1 hxs
    rw [Item.walkAll] at hwhole ⊢
    obtain ⟨hfirst, hrest⟩ := hwhole.of_append
    rw [Item.parentsAll]
    exact List.rel_append (linked_item hfirst hy hx) (linked_items hrest hy hxs)
end

/-- **Every node below a document has a parent in the walk**, the one that its place among the
parents names. -/
theorem Document.exists_parent (d : Document) {i : Nat}
    (hx : (Item.document d).walk[i]? = some x) (hi : 0 < i) :
    ∃ j y, d.parents[i]? = some (some j) ∧ (Item.document d).walk[j]? = some y ∧
      x ∈ y.children := by
  have hlisted : ListedAt (Item.document d).walk 1 (Node.walkAll d.children) := by
    intro k z hz
    rw [Nat.add_comm]
    exact hz
  have hlinked := linked_items (j := 0) (y := .document d) hlisted rfl fun _ h => h
  obtain ⟨k, rfl⟩ : ∃ k, i = k + 1 := ⟨i - 1, by omega⟩
  obtain ⟨hk, hget⟩ := List.getElem?_eq_some_iff.1
    (show (Node.walkAll d.children)[k]? = some x from hx)
  have hlength := hlinked.length_eq
  obtain ⟨j, y, hplace, hy, hmem⟩ := hlinked.get hk (hlength ▸ hk)
  refine ⟨j, y, ?_, hy, ?_⟩
  · change (Item.parentsAll 1 (some 0) (Node.items d.children))[k]? = some (some j)
    rw [List.getElem?_eq_getElem (hlength ▸ hk)]
    exact congrArg some hplace
  · rw [← hget]
    exact hmem

end Template

end SingleFile
