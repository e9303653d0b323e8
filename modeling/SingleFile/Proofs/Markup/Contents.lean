import SingleFile.Markup.Tree
import SingleFile.Proofs.Grammar.Spans
import SingleFile.Template

/-!
# Markup — where elements keep their children

The tags that keep their children apart decide in which of two fields the
entry of an element holds its children, and nothing else. `Entry.flat`
forgets the choice: the trees of one source under two lists of such tags
are the same when flat (`flatAll_entriesOf`), and what is read of an
entry of a template is what is read of it when flat (`visit_flat`).
-/

namespace SingleFile

namespace Markup

/-! ## Flat trees -/

mutual
/-- The entry with all elements holding what they keep among their children. -/
def Entry.flat : Entry → Entry
  | .text mark => .text mark
  | .comment data mark => .comment data mark
  | .other name mark => .other name mark
  | .element name mark as children content =>
    .element name mark as (match content with
      | some entries => flatAll entries
      | none => flatAll children) none
  | .fragment children => .fragment children
  | .document children => .document children

/-- Several entries flat. -/
def flatAll : List Entry → List Entry
  | [] => []
  | e :: es => e.flat :: flatAll es
end

/-- Flattening goes entry by entry. -/
theorem flatAll_eq_map (es : List Entry) : flatAll es = es.map Entry.flat := by
  induction es with
  | nil => rfl
  | cons e es ih => rw [flatAll, ih, List.map_cons]

namespace Element

/-- What an element holds, wherever it keeps it. -/
def entries (e : Element) : List Entry := e.content.getD e.children

/-- The element with all it holds among its children, and so on below. -/
def flat (e : Element) : Element := ⟨e.name, e.mark, e.attributes, flatAll e.entries, none⟩

/-- A flat element is the element of a flat entry. -/
theorem entry_flat (e : Element) : e.flat.entry = e.entry.flat := by
  obtain ⟨name, mark, as, children, content⟩ := e
  cases content <;> rfl

end Element

/-- The element of a flat entry is flat. -/
theorem element?_flat (e : Entry) : e.flat.element? = e.element?.map Element.flat := by
  cases e with
  | element name mark as children content => cases content <;> rfl
  | text _ | comment _ _ | other _ _ | fragment _ | document _ => rfl

/-- A flat entry is marked as before. -/
theorem mark?_flat (e : Entry) : e.flat.mark? = e.mark? := by
  cases e <;> rfl

/-! ## Trees under two lists of tags -/

/-- The source with another list of tags that keep their children apart. -/
def Source.withContainers (s : Source) (tags : List Text) : Source :=
  { s with containerTags := tags }

namespace Tree

variable (s : Source) (c : Cst)

/-- The marks of an element node and of its tags. -/
def mark : ElementMark :=
  ⟨s.markOf c, (Tags.ofChildren c.children).opening.map s.markOf,
    (Tags.ofChildren c.children).closing.map s.markOf⟩

/-- The attributes of its start tag. -/
def attributes : List Attribute :=
  ((Tags.ofChildren c.children).opening.map (attributesOf s)).getD []

/-- The offset where its start tag ends. -/
def first : Nat :=
  ((Tags.ofChildren c.children).opening.map fun o => s.offsets.charIndex o.stopByte).getD
    (s.offsets.charIndex c.startByte)

/-- The offset where its end tag starts. -/
def last : Nat :=
  ((Tags.ofChildren c.children).closing.map fun o => s.offsets.charIndex o.startByte).getD
    (s.offsets.charIndex c.stopByte)

/-- What stands between its tags. -/
def entries : List Entry :=
  if (Tags.ofChildren c.children).isSelfClosing then []
  else entriesOf s (first s c) (last s c) c.children

/-- Its element: what stands between the tags is kept apart or not. -/
def element : Element :=
  if s.containerTags.contains ((Tags.ofChildren c.children).name s) then
    ⟨(Tags.ofChildren c.children).name s, mark s c, attributes s c, [], some (entries s c)⟩
  else ⟨(Tags.ofChildren c.children).name s, mark s c, attributes s c, entries s c, none⟩

/-- Its end tag starts in the text. -/
theorem last_le (code : Text) (tags : List Text) : last (.ofText code tags) c ≤ code.length := by
  unfold last
  cases (Tags.ofChildren c.children).closing with
  | none => exact ByteOffsets.charIndex_le code _
  | some tag => exact ByteOffsets.charIndex_le code _

variable {s c}

/-- What an element of a tree holds is what stands between its tags. -/
@[simp] theorem entries_element : (element s c).entries = entries s c := by
  unfold element
  split <;> rfl

/-- It is marked where its node and the tags of it are. -/
@[simp] theorem mark_element : (element s c).mark = mark s c := by
  unfold element
  split <;> rfl

/-- It has the attributes of its start tag. -/
@[simp] theorem attributes_element : (element s c).attributes = attributes s c := by
  unfold element
  split <;> rfl

/-- It holds it among its children unless its tag keeps them apart. -/
theorem children_element :
    (element s c).children =
      if s.containerTags.contains (element s c).name then [] else (element s c).entries := by
  rw [entries_element]
  unfold element
  split <;> rfl

/-- Flat, it is the same whatever tags keep their children apart, if what stands
between the tags is. -/
theorem flat_element (s : Source) (c : Cst) :
    (element s c).flat =
      ⟨(Tags.ofChildren c.children).name s, mark s c, attributes s c, flatAll (entries s c),
        none⟩ := by
  unfold Element.flat
  rw [entries_element]
  unfold element
  split <;> rfl

end Tree

variable {s : Source}

/-- The entry of an element node. -/
theorem entryOf_of_element {c : Cst} (h : elementKinds.contains c.kind = true) :
    entryOf s c = some (Tree.element s c).entry := by
  obtain ⟨kind, startByte, stopByte, isNamed, isMissing, hasError, children⟩ := c
  rw [entryOf, if_pos h]
  dsimp only
  unfold Tree.element
  split <;> rfl

/-- The entry of a node that is no element: a comment, an entry of another kind,
or none. -/
theorem entryOf_of_not_element {c : Cst} (h : elementKinds.contains c.kind ≠ true) :
    entryOf s c =
      if c.kind = "comment" then
        some (.comment (commentData (s.offsets.slice s.text c)) (s.markOf c))
      else (otherNames.lookup c.kind).map fun name => .other name (s.markOf c) := by
  obtain ⟨kind, startByte, stopByte, isNamed, isMissing, hasError, children⟩ := c
  rw [entryOf, if_neg h]
  rfl

/-- What entries of nodes are: elements, comments and entries of other kinds. -/
theorem entryOf_cases {c : Cst} {e : Entry} (h : entryOf s c = some e) :
    (elementKinds.contains c.kind = true ∧ e = (Tree.element s c).entry) ∨
      (∃ data, e = .comment data (s.markOf c)) ∨ ∃ name, e = .other name (s.markOf c) := by
  by_cases hkind : elementKinds.contains c.kind = true
  · rw [entryOf_of_element hkind] at h
    exact .inl ⟨hkind, (Option.some.inj h).symm⟩
  · rw [entryOf_of_not_element hkind] at h
    split at h
    · exact .inr (.inl ⟨_, (Option.some.inj h).symm⟩)
    · obtain ⟨name, -, hname⟩ := Option.map_eq_some_iff.1 h
      exact .inr (.inr ⟨name, hname.symm⟩)

/-- A gap is a run of text, which is not empty. -/
theorem mem_gap {a b : Nat} {e : Entry} (h : e ∈ s.gap a b) : a < b ∧ e = .text (s.mark a b) := by
  unfold Source.gap at h
  split at h
  · rename_i hlt
    exact ⟨hlt, List.mem_singleton.1 h⟩
  · cases h

/-- An entry among others that a source leaves between nodes. -/
def IsGap (s : Source) (stop : Nat) (e : Entry) : Prop :=
  ∃ a b, a < b ∧ (b = stop ∨ ∃ byte, b = s.offsets.charIndex byte) ∧ e = .text (s.mark a b)

/-- **Entries are runs of text and entries of nodes.** -/
theorem mem_entriesOf {cs : List Cst} {cursor stop : Nat} {e : Entry}
    (h : e ∈ entriesOf s cursor stop cs) : IsGap s stop e ∨ ∃ c ∈ cs, entryOf s c = some e := by
  induction cs generalizing cursor with
  | nil =>
    obtain ⟨hlt, he⟩ := mem_gap h
    exact .inl ⟨cursor, stop, hlt, .inl rfl, he⟩
  | cons c cs ih =>
    have hrest : ∀ {cursor}, e ∈ entriesOf s cursor stop cs →
        IsGap s stop e ∨ ∃ d ∈ c :: cs, entryOf s d = some e := fun hmem =>
      (ih hmem).imp id fun ⟨d, hd, he⟩ => ⟨d, List.mem_cons_of_mem _ hd, he⟩
    rw [entriesOf] at h
    split at h
    · exact hrest h
    · rename_i entry hentry
      split at h
      · exact hrest h
      · rcases List.mem_append.1 h with h | h
        · obtain ⟨hlt, he⟩ := mem_gap h
          exact .inl ⟨cursor, _, hlt, .inr ⟨_, rfl⟩, he⟩
        · rcases List.mem_cons.1 h with rfl | h
          · exact .inr ⟨c, List.mem_cons_self, hentry⟩
          · exact hrest h

/-- **The elements at the top of a document** are those of nodes below the root. -/
theorem exists_node {code : Text} {tags : List Text} {root : Cst} {e : Element}
    (h : e ∈ (Document.ofTree code tags root).children.filterMap Entry.element?) :
    ∃ c ∈ root.children, elementKinds.contains c.kind = true ∧
      e = Tree.element (.ofText code tags) c := by
  obtain ⟨entry, hentry, he⟩ := List.mem_filterMap.1 h
  rcases mem_entriesOf hentry with ⟨_, _, _, _, rfl⟩ | ⟨c, hc, hentryOf⟩
  · cases he
  · rcases entryOf_cases hentryOf with ⟨hkind, rfl⟩ | ⟨_, rfl⟩ | ⟨_, rfl⟩
    · exact ⟨c, hc, hkind, (Option.some.inj he).symm⟩
    · cases he
    · cases he

/-- Flattening puts the entries of a list together. -/
theorem flatAll_append (es fs : List Entry) : flatAll (es ++ fs) = flatAll es ++ flatAll fs := by
  rw [flatAll_eq_map, flatAll_eq_map, flatAll_eq_map, List.map_append]

mutual
/-- **A tree is the same when flat**, whatever tags keep their children apart. -/
theorem flat_entryOf (s : Source) (tags : List Text) : ∀ c : Cst,
    (entryOf (s.withContainers tags) c).map Entry.flat = (entryOf s c).map Entry.flat
  | ⟨kind, startByte, stopByte, isNamed, isMissing, hasError, children⟩ => by
    by_cases hkind : elementKinds.contains kind = true
    · rw [entryOf_of_element hkind, entryOf_of_element hkind, Option.map_some, Option.map_some,
        ← Element.entry_flat, ← Element.entry_flat, Tree.flat_element, Tree.flat_element]
      have hentries : flatAll (Tree.entries (s.withContainers tags)
            ⟨kind, startByte, stopByte, isNamed, isMissing, hasError, children⟩) =
          flatAll (Tree.entries s
            ⟨kind, startByte, stopByte, isNamed, isMissing, hasError, children⟩) := by
        unfold Tree.entries
        split
        · rfl
        · exact flatAll_entriesOf s tags children _ _
      rw [hentries]
      rfl
    · rw [entryOf_of_not_element hkind, entryOf_of_not_element hkind]
      rfl

/-- And so are the entries between two offsets. -/
theorem flatAll_entriesOf (s : Source) (tags : List Text) : ∀ (cs : List Cst) (cursor stop : Nat),
    flatAll (entriesOf (s.withContainers tags) cursor stop cs) =
      flatAll (entriesOf s cursor stop cs)
  | [], _, _ => rfl
  | c :: cs, cursor, stop => by
    have hentry := flat_entryOf s tags c
    have hrest := flatAll_entriesOf s tags cs
    rw [entriesOf, entriesOf]
    cases hc : entryOf s c with
    | none =>
      rw [hc, Option.map_none, Option.map_eq_none_iff] at hentry
      rw [hentry]
      exact hrest _ _
    | some e =>
      rw [hc, Option.map_some, Option.map_eq_some_iff] at hentry
      obtain ⟨e', he', hflat⟩ := hentry
      rw [he']
      dsimp only
      change flatAll (if s.offsets.charIndex c.startByte < cursor ∨
        stop < s.offsets.charIndex c.stopByte then _ else _) = _
      split
      · exact hrest _ _
      · rw [flatAll_append, flatAll_append, flatAll, flatAll, hflat]
        exact congrArg _ (congrArg _ (hrest _ _))
end

end Markup

namespace Template.Context

mutual
/-- **What is read of an entry** is what is read of it when flat. -/
theorem visit_flat (c : Context) : ∀ e : Markup.Entry, c.visit e.flat = c.visit e
  | .text _ | .comment _ _ | .other _ _ | .fragment _ | .document _ => rfl
  | .element name mark as children content => by
    cases content with
    | some entries =>
      rw [Markup.Entry.flat, visit, visit]
      dsimp only
      rw [visitAll_flatAll c entries]
    | none =>
      rw [Markup.Entry.flat, visit, visit]
      dsimp only
      rw [visitAll_flatAll c children]

/-- And what is read of several. -/
theorem visitAll_flatAll (c : Context) : ∀ es : List Markup.Entry,
    c.visitAll (Markup.flatAll es) = c.visitAll es
  | [] => rfl
  | e :: es => by
    rw [Markup.flatAll, visitAll, visitAll, visit_flat c e, visitAll_flatAll c es]
end

/-- The marks of entries bound them as before. -/
theorem bounds_flatAll (es : List Markup.Entry) : bounds (Markup.flatAll es) = bounds es := by
  have hmarks : (Markup.flatAll es).filterMap Markup.Entry.mark? =
      es.filterMap Markup.Entry.mark? := by
    rw [Markup.flatAll_eq_map, List.filterMap_map]
    exact congrArg (List.filterMap · es) (funext Markup.mark?_flat)
  unfold bounds
  rw [hmarks]

/-- The document that is read of them is the same. -/
theorem readDocument_flatAll (c : Context) (es : List Markup.Entry) :
    c.readDocument (Markup.flatAll es) = c.readDocument es := by
  unfold readDocument
  rw [visitAll_flatAll, bounds_flatAll]

end Template.Context

/-- **Flat entries are transformed alike.** -/
theorem Template.Transformer.transform_flatAll (t : Transformer) (es : List Markup.Entry) :
    t.transform (Markup.flatAll es) = t.transform es := by
  unfold transform
  rw [Context.readDocument_flatAll]

end SingleFile
