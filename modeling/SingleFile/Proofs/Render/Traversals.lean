import Mathlib.Data.List.Basic
import SingleFile.Render

/-!
# Listings — three ways over a tree

A template node is walked in three ways that are written apart: `Item.walk`
lists the nodes, `Render.item` makes a value of them, and `Render.lines`
makes lines. The values that hang under the fields of a node, taken in
order, are those of the walk (`nodes_item`), and the lines are those of the
outline, in which every node stands one level below its parent and the
script of an expression follows its container (`lines_eq`). So all three
tell of the same nodes in the same order (`traversals_agree`).
-/

namespace SingleFile

/-! ## The nodes in a value -/

namespace Value

/-- The fields of a node's value under which other nodes hang, by the type of the node. -/
def hanging (type : String) : List String :=
  if type = "HTMLDocument" then ["children"]
  else if type = "HTMLElement" then ["startTag", "attributes", "children", "endTag"]
  else if type = "HTMLAttribute" then ["key", "value"]
  else []

/-- A field is smaller than the fields that it is one of. -/
theorem sizeOf_get?_lt {fields : List (Text × Value)} {key : Text} {v : Value}
    (h : get? fields key = some v) : sizeOf v < sizeOf fields := by
  induction fields with
  | nil => cases h
  | cons f fields ih =>
    obtain ⟨k, w⟩ := f
    rw [get?, List.lookup_cons] at h
    simp only [List.cons.sizeOf_spec, Prod.mk.sizeOf_spec]
    split at h
    · cases h
      omega
    · have := ih h
      omega

/-- **The nodes in a value**, each with its type and its range: first the node whose value it is, then
what hangs under its fields, list by list. -/
def nodes : Value → List (Text × Value)
  | .table fields =>
    match get? fields "type".toList, get? fields "range".toList with
    | some (.string type), some range =>
      (type, range) :: (hanging (String.ofList type)).flatMap fun key =>
        match _h : get? fields key.toList with
        | some v => nodes v
        | none => []
    | _, _ => []
  | .array items => items.flatMap nodes
  | _ => []
termination_by v => sizeOf v
decreasing_by
  · have := sizeOf_get?_lt _h
    simp only [Value.table.sizeOf_spec]
    omega
  · have := List.sizeOf_lt_of_mem ‹_›
    simp only [Value.array.sizeOf_spec]
    omega

/-- In a list they come item by item. -/
@[simp] theorem nodes_array (items : List Value) :
    nodes (.array items) = items.flatMap nodes := by
  rw [nodes]

/-- Nothing is no node. -/
@[simp] theorem nodes_null : nodes .null = [] := by
  rw [nodes]
  all_goals exact fun _ h => by cases h

/-- What may be absent. -/
theorem nodes_ofOption {α : Type} (f : α → Value) (o : Option α) :
    nodes (.ofOption f o) = o.toList.flatMap fun x => nodes (f x) := by
  cases o with
  | none => exact nodes_null
  | some x => exact (List.append_nil _).symm

end Value

namespace Render

/-- A field of a record is found by its name. -/
theorem get?_record (fields : List (String × Value)) (key : String) :
    Value.get? (fields.map fun f => (f.1.toList, f.2)) key.toList = fields.lookup key := by
  induction fields with
  | nil => rfl
  | cons f fields ih =>
    have hkey : (key.toList == f.1.toList) = (key == f.1) := by
      rw [Bool.eq_iff_iff, beq_iff_eq, beq_iff_eq, String.toList_inj]
    rw [List.map_cons, Value.get?, List.lookup_cons, List.lookup_cons, hkey]
    rw [Value.get?] at ih
    rw [ih]

/-- No node hangs under a field that every node has. -/
theorem lookup_head_of_mem_hanging {type key : String} (h : key ∈ Value.hanging type)
    (place : Template.Place) : (head type place).lookup key = none := by
  have hne : key ≠ "type" ∧ key ≠ "range" ∧ key ≠ "loc" := by
    unfold Value.hanging at h
    split_ifs at h <;> simp only [List.mem_cons, List.not_mem_nil, or_false] at h
    · subst h
      decide
    · rcases h with rfl | rfl | rfl | rfl <;> decide
    · rcases h with rfl | rfl <;> decide
  simp [head, List.lookup_cons, beq_eq_false_iff_ne.2 hne.1, beq_eq_false_iff_ne.2 hne.2.1,
    beq_eq_false_iff_ne.2 hne.2.2]

/-- **The nodes in the value of a node**: itself, and those in the fields where nodes hang. -/
theorem nodes_record (type : String) (place : Template.Place) (rest : List (String × Value)) :
    Value.nodes (.record (head type place ++ rest)) =
      (type.toList, range place.range) :: (Value.hanging type).flatMap fun key =>
        ((rest.lookup key).map Value.nodes).getD [] := by
  have htype : (head type place ++ rest).lookup "type" = some (.string type.toList) := rfl
  have hrange : (head type place ++ rest).lookup "range" = some (range place.range) := rfl
  unfold Value.record
  rw [Value.nodes, get?_record, get?_record, htype, hrange]
  dsimp only
  rw [String.ofList_toList]
  congr 1
  refine List.flatMap_congr fun key hkey => ?_
  have hbehind : Value.get? ((head type place ++ rest).map fun f => (f.1.toList, f.2)) key.toList =
      rest.lookup key := by
    rw [get?_record, List.lookup_append, lookup_head_of_mem_hanging hkey, Option.none_or]
  rw [← hbehind]
  split <;> rename_i hget <;> rw [hget] <;> rfl

/-- What is told of a node: its type, and the two offsets of its range. -/
def entry (x : Template.Item) : Text × Value :=
  (x.typeName.toList, .array [.integer x.place.range.start, .integer x.place.range.stop])

/-- A node below which there are no others. -/
theorem nodes_leaf {type : String} (place : Template.Place) (rest : List (String × Value))
    (h : Value.hanging type = []) :
    Value.nodes (.record (head type place ++ rest)) = [(type.toList, range place.range)] := by
  rw [nodes_record, h, List.flatMap_nil]

/-- An expression has no nodes of the template below it. -/
theorem nodes_container (c : Template.Container) :
    Value.nodes (container c) = [entry (.container c)] :=
  nodes_leaf c.place _ rfl

/-- A key. -/
theorem nodes_key (k : Template.Key) :
    Value.nodes (item k.item) = [entry k.item] := by
  cases k with
  | identifier name => exact nodes_leaf name.place _ rfl
  | directive key => exact nodes_leaf key.place _ rfl

/-- The value of an attribute. -/
theorem nodes_content (v : Template.AttributeContent) :
    Value.nodes (item v.item) = [entry v.item] := by
  cases v with
  | literal value => exact nodes_leaf value.place _ rfl
  | container c => exact nodes_container c

/-- An attribute, its key and its value. -/
theorem nodes_attr (a : Template.Attribute) : Value.nodes (attr a) = a.walk.map entry := by
  have hrecord : attr a = .record (head "HTMLAttribute" a.place ++
      [("key", item a.key.item), ("value", .ofOption item (a.content.map (·.item)))]) := by
    obtain ⟨place, key, content⟩ := a
    rcases key with _ | _ <;> rcases content with _ | _ | _ <;> rfl
  have hhanging : Value.hanging "HTMLAttribute" = ["key", "value"] := rfl
  rw [hrecord, nodes_record, hhanging]
  change entry (.attr a) :: (Value.nodes (item a.key.item) ++
    (Value.nodes (.ofOption item (a.content.map (·.item))) ++ [])) = _
  rw [nodes_key, Value.nodes_ofOption, List.append_nil]
  unfold Template.Attribute.walk
  cases a.content with
  | none => rfl
  | some v =>
    change entry (.attr a) :: ([entry a.key.item] ++ (Value.nodes (item v.item) ++ [])) = _
    rw [nodes_content]
    rfl

/-- An element, its tags, its attributes and what it holds. -/
theorem nodes_element (place : Template.Place) (name : Text) (opening : Template.OpeningTag)
    (closing : Option Template.ClosingTag) (attributes : List Template.Attribute)
    (children : List Template.Item)
    (h : (items children).flatMap Value.nodes = (Template.Item.walkAll children).map entry) :
    Value.nodes (item (.element place name opening closing attributes children)) =
      (Template.Item.element place name opening closing attributes children).walk.map entry := by
  have hhanging : Value.hanging "HTMLElement" =
      ["startTag", "attributes", "children", "endTag"] := rfl
  have hopening : Value.nodes (openingTag opening) = [entry (.openingTag opening)] :=
    nodes_leaf opening.place _ rfl
  have hattributes : (attributes.map attr).flatMap Value.nodes =
      (attributes.flatMap Template.Attribute.walk).map entry := by
    rw [List.flatMap_map, List.map_flatMap]
    exact List.flatMap_congr fun a _ => nodes_attr a
  have hclosing : Value.nodes (.ofOption closingTag closing) =
      (closing.toList.map Template.Item.closingTag).map entry := by
    rw [Value.nodes_ofOption, List.map_map, List.map_eq_flatMap]
    exact List.flatMap_congr fun tag _ => nodes_leaf tag.place [] rfl
  rw [item, nodes_record, hhanging, Template.Item.walk]
  change entry (.element place name opening closing attributes children) ::
    (Value.nodes (openingTag opening) ++ (Value.nodes (.array (attributes.map attr)) ++
      (Value.nodes (.array (items children)) ++ (Value.nodes (.ofOption closingTag closing) ++
        [])))) = _
  rw [hopening, Value.nodes_array, hattributes, Value.nodes_array, h, hclosing]
  simp only [List.map_append, List.map_cons, List.append_assoc, List.append_nil,
    List.cons_append, List.nil_append]

/-- A document and what it holds. -/
theorem nodes_root (place : Template.Place) (children : List Template.Item)
    (h : (items children).flatMap Value.nodes = (Template.Item.walkAll children).map entry) :
    Value.nodes (item (.root place children)) =
      (Template.Item.root place children).walk.map entry := by
  have hhanging : Value.hanging "HTMLDocument" = ["children"] := rfl
  rw [item, nodes_record, hhanging, Template.Item.walk]
  change entry (.root place children) :: (Value.nodes (.array (items children)) ++ []) = _
  rw [Value.nodes_array, h, List.append_nil, List.map_cons]

mutual
/-- **The value of a node tells of the nodes of its walk**, in the same order. -/
theorem nodes_item : ∀ i : Template.Item, Value.nodes (item i) = i.walk.map entry
  | .root place children => nodes_root place children (flatMap_nodes_items children)
  | .element place name opening closing attributes children =>
    nodes_element place name opening closing attributes children (flatMap_nodes_items children)
  | .openingTag tag => nodes_leaf tag.place _ rfl
  | .closingTag tag => nodes_leaf tag.place [] rfl
  | .attr a => nodes_attr a
  | .identifier name => nodes_leaf name.place _ rfl
  | .directiveKey key => nodes_leaf key.place _ rfl
  | .text run => nodes_leaf run.place _ rfl
  | .attributeValue v => nodes_leaf v.place _ rfl
  | .container c => nodes_container c
  | .comment c => nodes_leaf c.place _ rfl

/-- And the values of several nodes tell of theirs. -/
theorem flatMap_nodes_items : ∀ is : List Template.Item,
    (items is).flatMap Value.nodes = (Template.Item.walkAll is).map entry
  | [] => rfl
  | i :: is => by
    rw [items, List.flatMap_cons, nodes_item i, flatMap_nodes_items is, Template.Item.walkAll,
      List.map_append]
end

end Render

/-! ## The outline -/

/-- A part of a script is smaller than the script that it is a part of. -/
theorem ScriptNode.sizeOf_lt_of_mem_children {s x : ScriptNode} (h : x ∈ s.children) :
    sizeOf x < sizeOf s := by
  have hlt := List.sizeOf_lt_of_mem h
  obtain ⟨kind, range, location, raw, children⟩ := s
  simp only [ScriptNode.mk.sizeOf_spec]
  dsimp only at hlt
  omega

/-- A script node at a depth and everything below it, each one level below its parent. -/
def ScriptNode.outline (depth : Nat) (s : ScriptNode) : List (Nat × ScriptNode) :=
  (depth, s) :: s.children.flatMap fun x => x.outline (depth + 1)
termination_by sizeOf s
decreasing_by exact sizeOf_lt_of_mem_children ‹_›

namespace Template

/-- The walks of several nodes. -/
theorem Item.walkAll_eq_flatMap (is : List Item) : Item.walkAll is = is.flatMap Item.walk := by
  induction is with
  | nil => rfl
  | cons i is ih => rw [walkAll, List.flatMap_cons, ih]

/-- **A walk goes over the nodes below a node**, one after the other. -/
theorem Item.walk_eq (i : Item) : i.walk = i :: i.children.flatMap Item.walk := by
  cases i with
  | root place children => rw [walk, walkAll_eq_flatMap, Item.children]
  | element place name opening closing attributes children =>
    have hopening : walk (openingTag opening) = [openingTag opening] := rfl
    have hattributes : (attributes.map Item.attr).flatMap walk =
        attributes.flatMap Attribute.walk := by
      rw [List.flatMap_map]
      rfl
    have hclosing : (closing.toList.map closingTag).flatMap walk =
        closing.toList.map closingTag := by
      rw [List.flatMap_map, List.map_eq_flatMap]
      rfl
    rw [walk, Item.children, walkAll_eq_flatMap]
    simp only [List.flatMap_append, List.flatMap_cons, hopening, hattributes, hclosing,
      List.cons_append, List.nil_append]
  | attr a =>
    obtain ⟨place, key, content⟩ := a
    rcases key with _ | _ <;> rcases content with _ | _ | _ <;> rfl
  | _ => rfl

/-- So the walk of a node below another is shorter. -/
theorem Item.length_walk_lt {i x : Item} (h : x ∈ i.children) :
    x.walk.length < i.walk.length := by
  obtain ⟨front, back, hsplit⟩ := List.append_of_mem h
  rw [i.walk_eq, hsplit, List.length_cons, List.flatMap_append, List.length_append,
    List.flatMap_cons, List.length_append]
  omega

/-- **The outline of a node**: the node at a depth and everything below it, each one level below its
parent. -/
def Item.outline (depth : Nat) (i : Item) : List (Nat × Item) :=
  (depth, i) :: i.children.attach.flatMap fun x => x.1.outline (depth + 1)
termination_by i.walk.length
decreasing_by exact length_walk_lt x.2

/-- The outline goes on with those of the nodes below. -/
theorem Item.outline_eq (depth : Nat) (i : Item) :
    i.outline depth = (depth, i) :: i.children.flatMap (outline (depth + 1)) := by
  rw [outline, ← List.flatMap_map, List.attach_map_subtype_val]

/-- It lists the nodes of the walk. -/
theorem Item.map_snd_outline (depth : Nat) (i : Item) :
    (i.outline depth).map Prod.snd = i.walk := by
  rw [outline_eq, walk_eq, List.map_cons, List.map_flatMap]
  congr 1
  exact List.flatMap_congr fun x hx => map_snd_outline (depth + 1) x
termination_by i.walk.length
decreasing_by exact length_walk_lt hx

/-- The expression of a container that has one. -/
def Item.expression? : Item → Option ScriptNode
  | .container c => c.outcome.toOption
  | _ => none

end Template

/-- The outline of a script lists the nodes of its walk. -/
theorem ScriptNode.map_snd_outline (depth : Nat) (s : ScriptNode) :
    (s.outline depth).map Prod.snd = s.walk := by
  have hall : ∀ xs : List ScriptNode, walkAll xs = xs.flatMap walk := by
    intro xs
    induction xs with
    | nil => rfl
    | cons x xs ih => rw [walkAll, ih, List.flatMap_cons]
  obtain ⟨kind, range, location, raw, children⟩ := s
  rw [outline, walk, hall, List.map_cons, List.map_flatMap]
  congr 1
  exact List.flatMap_congr fun x hx => map_snd_outline (depth + 1) x
termination_by sizeOf s
decreasing_by exact sizeOf_lt_of_mem_children hx

/-! ## Lines -/

namespace Render

open Template (Item)

/-- What the line of a node says behind its type and its range. -/
def detail : Item → String
  | .element _ name .. => " " ++ name.toStr
  | .identifier name => " " ++ name.name.toStr
  | .directiveKey key => " " ++ directiveName key.parts
  | .text run => " " ++ quoted run.raw
  | .attributeValue v => " " ++ quoted v.raw
  | .container c =>
    match c.outcome with
    | .ok _ => ""
    | .error e => " error: " ++ e.text
  | _ => ""

/-- The line of a node at a depth: two spaces for each level, its type and its range, and what else
there is to say. -/
def nodeLine (depth : Nat) (i : Item) : String :=
  String.ofList (List.replicate (2 * depth) ' ') ++
    s!"{i.typeName} [{i.place.range.start}, {i.place.range.stop})" ++ detail i

/-- The line of a script node at a depth: two spaces for each level, its kind and its source text. -/
def scriptLine (depth : Nat) (s : ScriptNode) : String :=
  String.ofList (List.replicate (2 * depth) ' ') ++ s!"{s.kind} {quoted s.raw}"

/-- **The lines of one node** at a depth: its own, and if it has an expression one for each node of
the script, the first of them one level below. -/
def ownLines (depth : Nat) (i : Item) : List String :=
  nodeLine depth i :: i.expression?.toList.flatMap fun e =>
    (e.outline (depth + 1)).map fun x => scriptLine x.1 x.2

/-- A line says the type and the range of its node first. -/
theorem line_eq (depth : Nat) (i : Item) : line depth i = nodeLine depth i := by
  have hdescribe : describe i = label i.typeName i.place ++ detail i := by
    cases i with
    | container c =>
      obtain ⟨place, e | s⟩ := c
      · exact String.append_assoc
      · exact String.append_empty.symm
    | element | identifier | directiveKey | text | attributeValue => exact String.append_assoc
    | _ => exact String.append_empty.symm
  unfold line indented nodeLine
  rw [hdescribe, String.append_assoc]
  rfl

/-- The lines of a script. -/
theorem scriptLines_eq (depth : Nat) (s : ScriptNode) :
    scriptLines depth s = (s.outline depth).map fun x => scriptLine x.1 x.2 := by
  have hall : ∀ xs : List ScriptNode, scriptLinesAll (depth + 1) xs =
      xs.flatMap (scriptLines (depth + 1)) := by
    intro xs
    induction xs with
    | nil => rfl
    | cons x xs ih => rw [scriptLinesAll, ih, List.flatMap_cons]
  obtain ⟨kind, range, location, raw, children⟩ := s
  rw [ScriptNode.outline, scriptLines, hall, List.map_cons, List.map_flatMap]
  congr 1
  exact List.flatMap_congr fun x hx => scriptLines_eq (depth + 1) x
termination_by sizeOf s
decreasing_by exact ScriptNode.sizeOf_lt_of_mem_children hx

/-- The lines of a container. -/
theorem containerLines_eq (depth : Nat) (c : Template.Container) :
    containerLines depth c = ownLines depth (.container c) := by
  rw [containerLines, line_eq]
  obtain ⟨place, e | s⟩ := c
  · rfl
  · refine congrArg (List.cons _) ?_
    exact (scriptLines_eq (depth + 1) s).trans (List.append_nil _).symm

/-- The lines of several nodes. -/
theorem linesAll_eq_flatMap (depth : Nat) (is : List Item) :
    linesAll depth is = is.flatMap (lines depth) := by
  induction is with
  | nil => rfl
  | cons i is ih => rw [linesAll, List.flatMap_cons, ih]

/-- A node that has no expression and none below it has one line. -/
theorem ownLines_of_leaf {depth : Nat} {i : Item} (h : i.expression? = none) :
    ownLines depth i = [line depth i] := by
  rw [ownLines, h, line_eq]
  rfl

/-- **The lines of a node** are its own and those of the nodes below it, one level deeper. -/
theorem lines_eq_ownLines_append (depth : Nat) (i : Item) :
    lines depth i = ownLines depth i ++ i.children.flatMap (lines (depth + 1)) := by
  cases i with
  | root place children =>
    rw [lines, linesAll_eq_flatMap, ownLines_of_leaf rfl, Item.children, List.singleton_append]
  | element place name opening closing attributes children =>
    have hopening : lines (depth + 1) (.openingTag opening) =
        [line (depth + 1) (.openingTag opening)] := rfl
    have hattributes : (attributes.map Item.attr).flatMap (lines (depth + 1)) =
        attributes.flatMap (attrLines (depth + 1)) := by
      rw [List.flatMap_map]
      rfl
    have hclosing : (closing.toList.map Item.closingTag).flatMap (lines (depth + 1)) =
        closing.toList.map fun tag => line (depth + 1) (.closingTag tag) := by
      rw [List.flatMap_map, List.map_eq_flatMap]
      rfl
    rw [lines, Item.children, linesAll_eq_flatMap, ownLines_of_leaf rfl]
    simp only [List.flatMap_append, List.flatMap_cons, hopening, hattributes, hclosing,
      List.cons_append, List.nil_append]
  | attr a =>
    obtain ⟨place, key, content⟩ := a
    have hkey : lines (depth + 1) key.item = [line (depth + 1) key.item] := by
      cases key <;> rfl
    rw [Item.children, List.flatMap_cons, hkey, ownLines_of_leaf rfl]
    rcases content with _ | _ | c
    · rfl
    · rfl
    · refine congrArg (line depth _ :: line (depth + 1) key.item :: ·) ?_
      exact (List.append_nil _).symm
  | container c => rw [lines, containerLines_eq]; exact (List.append_nil _).symm
  | _ => exact (ownLines_of_leaf rfl).symm.trans (List.append_nil _).symm

/-- **The lines of a tree are those of its outline**, node by node. -/
theorem lines_eq (depth : Nat) (i : Item) :
    lines depth i = (i.outline depth).flatMap fun x => ownLines x.1 x.2 := by
  rw [lines_eq_ownLines_append, Item.outline_eq, List.flatMap_cons, List.flatMap_assoc]
  congr 1
  exact List.flatMap_congr fun x hx => lines_eq (depth + 1) x
termination_by i.walk.length
decreasing_by exact Item.length_walk_lt hx

/-! ## All three -/

/-- **The three ways over a tree agree**, whatever nodes stand among the children of others. The
value of a node tells of the nodes of its walk, each with its type and its range, in the order of
the walk. The lines of a node at a depth are, in this order too, one for each node, indented by two
spaces for each level that it is below, and behind the line of a container that has an expression
one for each node of its script, in the order of the walk of the script and each one level below its
parent, the first one below the container. -/
theorem traversals_agree (depth : Nat) (i : Item) :
    Value.nodes (item i) = i.walk.map entry ∧
      lines depth i = (i.outline depth).flatMap (fun x => ownLines x.1 x.2) ∧
      (i.outline depth).map Prod.snd = i.walk ∧
      ∀ (e : ScriptNode) (level : Nat), (e.outline level).map Prod.snd = e.walk :=
  ⟨nodes_item i, lines_eq depth i, i.map_snd_outline depth, fun e level => e.map_snd_outline level⟩

/-! ## A tree with every kind of node -/

namespace Mixed

/-- A place on the first line, by its start and its size. -/
def place (start size : Nat) : Template.Place :=
  ⟨⟨start, start + size, Nat.le_add_right start size⟩, ⟨⟨1, start⟩, ⟨1, start + size⟩⟩⟩

/-- A part of a script, from some offset on. -/
def script (kind raw : String) (start : Nat) (children : List ScriptNode) : ScriptNode :=
  ⟨kind, (place start raw.length).range, (place start raw.length).location, raw.toList, children⟩

/-- A call with one argument. -/
def call : ScriptNode :=
  script "call" "f(x)" 7 [script "name" "f" 7 [], script "list" "(x)" 8 [script "name" "x" 9 []]]

/-- A directive with an expression, and a plain attribute with a value. -/
def attributes : List Template.Attribute :=
  [⟨place 3 9, .directive ⟨place 3 2, ⟨"bind".toList, some "a".toList, [], true⟩⟩,
      some (.container ⟨place 6 6, .ok call⟩)⟩,
    ⟨place 13 5, .identifier ⟨place 13 1, "b".toList⟩,
      some (.literal ⟨place 15 3, "c".toList, "'c'".toList⟩)⟩]

/-- A document that holds an end tag and a comment beside an element, which holds an attribute
beside a run of text and an expression that was rejected. -/
def tree : Item :=
  .root (place 0 60)
    [.element (place 0 40) "p".toList ⟨place 0 19, false⟩ (some ⟨place 36 4⟩) attributes
      [.text ⟨place 19 1, "t".toList, "t".toList⟩,
        .container ⟨place 20 5, .error ⟨"Unexpected token", 22, ⟨1, 22⟩⟩⟩,
        .attr ⟨place 26 1, .identifier ⟨place 26 1, "d".toList⟩, none⟩],
      .closingTag ⟨place 41 4⟩, .comment ⟨place 46 4, .htmlComment, "e".toList⟩]

end Mixed

/-- Its value tells of its nodes and not of the parts of the call, which stand in its lines below the
container that is below an attribute. -/
theorem traversals_agree_mixed :
    lines 0 Mixed.tree =
      ["HTMLDocument [0, 60)",
        "  HTMLElement [0, 40) p",
        "    HTMLStartTag [0, 19)",
        "    HTMLAttribute [3, 12)",
        "      HTMLDirectiveKey [3, 5) binda",
        "      HTMLExpressionContainer [6, 12)",
        "        call 'f(x)'",
        "          name 'f'",
        "          list '(x)'",
        "            name 'x'",
        "    HTMLAttribute [13, 18)",
        "      HTMLIdentifier [13, 14) b",
        "      HTMLAttributeValue [15, 18) \"'c'\"",
        "    HTMLText [19, 20) 't'",
        "    HTMLExpressionContainer [20, 25) error: Unexpected token (1:22)",
        "    HTMLAttribute [26, 27)",
        "      HTMLIdentifier [26, 27) d",
        "    HTMLEndTag [36, 40)",
        "  HTMLEndTag [41, 45)",
        "  HTMLComment [46, 50)"] ∧
      Value.nodes (item Mixed.tree) =
        [("HTMLDocument", 0, 60), ("HTMLElement", 0, 40), ("HTMLStartTag", 0, 19),
          ("HTMLAttribute", 3, 12), ("HTMLDirectiveKey", 3, 5), ("HTMLExpressionContainer", 6, 12),
          ("HTMLAttribute", 13, 18), ("HTMLIdentifier", 13, 14), ("HTMLAttributeValue", 15, 18),
          ("HTMLText", 19, 20), ("HTMLExpressionContainer", 20, 25), ("HTMLAttribute", 26, 27),
          ("HTMLIdentifier", 26, 27), ("HTMLEndTag", 36, 40), ("HTMLEndTag", 41, 45),
          ("HTMLComment", 46, 50)].map
            (fun x => (x.1.toList, .array [.integer x.2.1, .integer x.2.2])) ∧
      Value.nodes (item Mixed.tree) = Mixed.tree.walk.map entry ∧
      lines 0 Mixed.tree = (Mixed.tree.outline 0).flatMap (fun x => ownLines x.1 x.2) ∧
      (Mixed.tree.outline 0).map Prod.snd = Mixed.tree.walk ∧
      ∀ (e : ScriptNode) (level : Nat), (e.outline level).map Prod.snd = e.walk :=
  ⟨by decide +kernel, (traversals_agree 0 Mixed.tree).1.trans rfl, traversals_agree 0 Mixed.tree⟩

end Render

end SingleFile
