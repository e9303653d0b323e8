import Mathlib.Data.List.Chain
import SingleFile.Component
import SingleFile.Proofs.Grammar.Trees
import SingleFile.Proofs.Location.Marks
import SingleFile.Proofs.Markup.Nested

/-!
# Markup — entries tile the source

Whatever tree the grammar returned, the entries of its document leave
nothing out and overlap nowhere: each starts where the one before it
ends. The only thing asked of the tree is that no node ends before it
starts. Its nodes need not nest, their spans may lie outside the text or
inside a character, and their kinds and flags say what they like; a node
that starts behind the cursor or ends past the limit is left to the text
around it (`tiled_entriesOf`).

Inside an element the entries tile what stands between its tags, from
wherever the grammar says that the start tag ends. When the end tag
starts before that, there is nothing between them, and the element is
empty.
-/

namespace SingleFile

namespace Markup

/-! ## Tilings -/

/-- Whether an entry is a run of text. -/
def Entry.isText : Entry → Bool
  | .text _ => true
  | _ => false

/-- Entries one after the other: the first starts at `start`, each of the others where the one
before it ends, and the last ends at `stop`. -/
def Contiguous (start : Int) : List Entry → (stop : Int) → Prop
  | [], stop => start = stop
  | e :: es, stop =>
    ∃ m, e.mark? = some m ∧ m.start = start ∧ m.start ≤ m.stop ∧ Contiguous m.stop es stop

/-- **Entries that tile the source** between two offsets. Between offsets the wrong way round
there are none; a run of text is not empty, and no other run follows it. -/
structure Tiled (start stop : Int) (es : List Entry) : Prop where
  contiguous : start ≤ stop → Contiguous start es stop
  inverted : stop < start → es = []
  texts : ∀ m, .text m ∈ es → m.start < m.stop
  apart : es.IsChain fun a b => ¬ (a.isText ∧ b.isText)

/-- The offset behind the start tag of an element, or where it starts without one. -/
def ElementMark.innerStart (mark : ElementMark) : Int :=
  (mark.startTag.map Mark.stop).getD mark.whole.start

/-- The offset before the end tag of an element, or where it ends without one. -/
def ElementMark.innerStop (mark : ElementMark) : Int :=
  (mark.endTag.map Mark.start).getD mark.whole.stop

/-- The marks of an entry itself, those of its tags and attributes among them. -/
def Entry.marks : Entry → List Mark
  | .text m | .comment _ m | .other _ m => [m]
  | .element _ mark as _ _ =>
    mark.whole :: (mark.startTag.toList ++ mark.endTag.toList ++ as.map Attribute.mark)
  | .fragment _ | .document _ => []

/-- Entries that end where others start go on with them. -/
theorem Contiguous.append {start mid stop : Int} {es fs : List Entry} (he : Contiguous start es mid)
    (hf : Contiguous mid fs stop) : Contiguous start (es ++ fs) stop := by
  induction es generalizing start with
  | nil =>
    cases he
    exact hf
  | cons e es ih =>
    obtain ⟨m, hm, hstart, hle, hrest⟩ := he
    exact ⟨m, hm, hstart, hle, ih hrest⟩

variable {s : Source}

/-- The entry of a node is no run of text. -/
theorem isText_entryOf {c : Cst} {e : Entry} (h : entryOf s c = some e) : e.isText = false := by
  rcases entryOf_cases h with ⟨-, rfl⟩ | ⟨_, rfl⟩ | ⟨_, rfl⟩ <;> rfl

/-- A gap tiles what is between its ends. -/
theorem tiled_gap (a b : Nat) : Tiled a b (s.gap a b) where
  contiguous := by
    intro hle
    unfold Source.gap
    split
    · exact ⟨_, rfl, rfl, hle, rfl⟩
    · change (a : Int) = b
      omega
  inverted := fun hlt => if_neg (by omega)
  texts := by
    intro m hm
    obtain ⟨hlt, he⟩ := mem_gap hm
    cases he
    exact Int.ofNat_lt.2 hlt
  apart := by
    unfold Source.gap
    split
    · exact .singleton _
    · exact .nil

/-- **A step of the tiling**: a gap, the entry of a node, and what tiles the rest. -/
theorem Tiled.cons {a first last b : Nat} {e : Entry} {es : List Entry} {m : Mark}
    (he : e.isText = false) (hm : e.mark? = some m) (hstart : m.start = first)
    (hstop : m.stop = last) (h1 : a ≤ first) (h2 : first ≤ last) (h3 : last ≤ b)
    (hes : Tiled last b es) : Tiled a b (s.gap a first ++ e :: es) where
  contiguous := by
    intro _
    refine ((tiled_gap a first).contiguous (Int.ofNat_le.2 h1)).append ?_
    exact ⟨m, hm, hstart, by omega, hstop ▸ hes.contiguous (Int.ofNat_le.2 h3)⟩
  inverted := by
    intro hlt
    omega
  texts := by
    intro m' hm'
    rcases List.mem_append.1 hm' with hgap | hmem
    · exact (tiled_gap a first).texts m' hgap
    · rcases List.mem_cons.1 hmem with rfl | hrest
      · cases he
      · exact hes.texts m' hrest
  apart := by
    -- the entry of the node is no text, so nothing stands next to a run that may not
    refine List.isChain_append.2 ⟨(tiled_gap a first).apart, hes.apart.cons ?_, ?_⟩
    · intro x _ hx
      rw [he] at hx
      exact Bool.false_ne_true hx.1
    · intro x _ y hy hxy
      cases hy
      rw [he] at hxy
      exact Bool.false_ne_true hxy.2

/-- **The entries between two offsets tile the source there**, whatever nodes they are made of,
as long as none ends before it starts. -/
theorem tiled_entriesOf {cs : List Cst} (hcs : ∀ c ∈ cs, c.startByte ≤ c.stopByte)
    (cursor stop : Nat) : Tiled cursor stop (entriesOf s cursor stop cs) := by
  induction cs generalizing cursor with
  | nil => exact tiled_gap cursor stop
  | cons c cs ih =>
    obtain ⟨hc, hcs⟩ := List.forall_mem_cons.1 hcs
    have hle := s.offsets.charIndex_mono hc
    rw [entriesOf]
    split
    · exact ih hcs cursor
    · rename_i e he
      split
      · exact ih hcs cursor
      · rename_i hfits
        rw [not_or, Nat.not_lt, Nat.not_lt] at hfits
        exact .cons (isText_entryOf he) (mark?_entryOf he) rfl rfl hfits.1 hle hfits.2 (ih hcs _)

/-! ## Where entries come from -/

section Origin

variable {text : Text} {tags : List Text} {root : Cst}

/-- An entry of a tree is the entry of a node, or a run of text that is not empty. -/
def HasOrigin (text : Text) (tags : List Text) (root : Cst) (e : Entry) : Prop :=
  (∃ a b, a < b ∧ b ≤ text.length ∧ e = .text ((Source.ofText text tags).mark a b)) ∨
    ∃ c ∈ root.walk, entryOf (.ofText text tags) c = some e

/-- A gap has no origin but the text. -/
theorem hasOrigin_gap {a b : Nat} (hb : b ≤ text.length) :
    ∀ x ∈ walkAll ((Source.ofText text tags).gap a b), HasOrigin text tags root x := by
  unfold Source.gap
  split
  · rename_i hlt
    intro x hx
    rw [walkAll, walkAll, Entry.walk, List.append_nil] at hx
    exact .inl ⟨a, b, hlt, hb, List.mem_singleton.1 hx⟩
  · exact List.forall_mem_nil _

mutual
/-- **What is at and below the entry of a node** comes from nodes and from text. -/
theorem hasOrigin_entryOf : ∀ {c : Cst} {e : Entry}, c ∈ root.walk →
    entryOf (.ofText text tags) c = some e → ∀ x ∈ e.walk, HasOrigin text tags root x
  | ⟨kind, startByte, stopByte, isNamed, isMissing, hasError, children⟩, e, hc, he => by
    intro x hx
    rcases entryOf_cases he with ⟨-, rfl⟩ | ⟨_, rfl⟩ | ⟨_, rfl⟩
    · rw [Element.walk_entry, Tree.entries_element] at hx
      rcases List.mem_cons.1 hx with rfl | hx
      · exact .inr ⟨_, hc, he⟩
      · unfold Tree.entries at hx
        split at hx
        · cases hx
        · exact hasOrigin_entriesOf children (fun d hd => Cst.mem_walk_of_child hc hd)
            (Tree.last_le _ text tags) x hx
    · obtain rfl := List.mem_singleton.1 hx
      exact .inr ⟨_, hc, he⟩
    · obtain rfl := List.mem_singleton.1 hx
      exact .inr ⟨_, hc, he⟩

/-- And what is at and below the entries between two offsets. -/
theorem hasOrigin_entriesOf : ∀ (cs : List Cst) {cursor stop : Nat}, (∀ c ∈ cs, c ∈ root.walk) →
    stop ≤ text.length →
    ∀ x ∈ walkAll (entriesOf (.ofText text tags) cursor stop cs), HasOrigin text tags root x
  | [], _, _, _, hstop => hasOrigin_gap hstop
  | c :: cs, cursor, stop, hcs, hstop => by
    obtain ⟨hc, hrest⟩ := List.forall_mem_cons.1 hcs
    intro x hx
    rw [entriesOf] at hx
    split at hx
    · exact hasOrigin_entriesOf cs hrest hstop x hx
    · rename_i e he
      split at hx
      · exact hasOrigin_entriesOf cs hrest hstop x hx
      · rw [walkAll_append, walkAll, List.mem_append, List.mem_append] at hx
        rcases hx with hx | hx | hx
        · exact hasOrigin_gap (ByteOffsets.charIndex_le text _) x hx
        · exact hasOrigin_entryOf hc he x hx
        · exact hasOrigin_entriesOf cs hrest hstop x hx
end

/-- An attribute of an element is that of a node in the start tag. -/
theorem Tree.exists_of_mem_attributes {s : Source} {c : Cst} {a : Attribute}
    (h : a ∈ Tree.attributes s c) : ∃ o ∈ c.children, ∃ d ∈ o.children, a.mark = s.markOf d := by
  unfold Tree.attributes at h
  cases ho : (Tags.ofChildren c.children).opening with
  | none =>
    rw [ho] at h
    cases h
  | some o =>
    rw [ho] at h
    obtain ⟨d, hd, hda⟩ := List.mem_filterMap.1 h
    refine ⟨o, (Tags.mem_of_opening ho).1, d, (List.mem_filter.1 hd).1, ?_⟩
    unfold attributeOf? at hda
    split at hda
    · obtain ⟨name, -, rfl⟩ := Option.map_eq_some_iff.1 hda
      rfl
    · cases hda

/-- **The marks of an element** are those of its node, of the tags of that and of the attributes
of the start tag. -/
theorem exists_markOf_element {s : Source} {c : Cst} {m : Mark} (hc : c ∈ root.walk)
    (hm : m ∈ (Tree.element s c).entry.marks) : ∃ d ∈ root.walk, m = s.markOf d := by
  unfold Element.entry Entry.marks at hm
  rw [Tree.mark_element, Tree.attributes_element] at hm
  simp only [List.mem_cons, List.mem_append, Option.mem_toList, List.mem_map] at hm
  rcases hm with rfl | (hstart | hend) | ⟨a, ha, rfl⟩
  · exact ⟨c, hc, rfl⟩
  · obtain ⟨o, ho, rfl⟩ := Option.map_eq_some_iff.1 hstart
    exact ⟨o, Cst.mem_walk_of_child hc (Tags.mem_of_opening ho).1, rfl⟩
  · obtain ⟨o, ho, rfl⟩ := Option.map_eq_some_iff.1 hend
    exact ⟨o, Cst.mem_walk_of_child hc (Tags.mem_of_closing ho).1, rfl⟩
  · obtain ⟨o, ho, d, hd, hmark⟩ := Tree.exists_of_mem_attributes ha
    exact ⟨d, Cst.mem_walk_of_child (Cst.mem_walk_of_child hc ho) hd, hmark⟩

/-- **Every mark of a tree is in place**: its ends lie in the text, where a line and a column are
found for them. -/
theorem HasOrigin.placed {e : Entry} (h : HasOrigin text tags root e)
    (hroot : ∀ c ∈ root.walk, c.startByte ≤ c.stopByte) :
    ∀ m ∈ e.marks, ∃ a b, m.PlacedIn text a b := by
  have hnode (c : Cst) (hc : c ∈ root.walk) :
      ∃ a b, ((Source.ofText text tags).markOf c).PlacedIn text a b :=
    ⟨_, _, Source.placedIn_mark tags (ByteOffsets.charIndex_mono _ (hroot c hc))
      (ByteOffsets.charIndex_le text _)⟩
  intro m hm
  rcases h with ⟨a, b, hlt, hb, rfl⟩ | ⟨c, hc, he⟩
  · obtain rfl := List.mem_singleton.1 hm
    exact ⟨a, b, Source.placedIn_mark tags (Nat.le_of_lt hlt) hb⟩
  rcases entryOf_cases he with ⟨-, rfl⟩ | ⟨_, rfl⟩ | ⟨_, rfl⟩
  · obtain ⟨d, hd, rfl⟩ := exists_markOf_element hc hm
    exact hnode d hd
  · obtain rfl := List.mem_singleton.1 hm
    exact hnode c hc
  · obtain rfl := List.mem_singleton.1 hm
    exact hnode c hc

/-- **What an element holds**: nothing when its start tag closes it as well, else what tiles the
source between its tags. -/
def Element.TiledFrom (e : Element) (c : Cst) : Prop :=
  if (Tags.ofChildren c.children).isSelfClosing then e.entries = []
  else Tiled e.mark.innerStart e.mark.innerStop e.entries

/-- What stands between the tags of an element node tiles the source there. -/
theorem tiledFrom_element {s : Source} {c : Cst} (hc : c ∈ root.walk)
    (hroot : ∀ c ∈ root.walk, c.startByte ≤ c.stopByte) : (Tree.element s c).TiledFrom c := by
  have hstart : (Tree.mark s c).innerStart = Tree.first s c := by
    unfold ElementMark.innerStart Tree.mark Tree.first
    cases (Tags.ofChildren c.children).opening <;> rfl
  have hstop : (Tree.mark s c).innerStop = Tree.last s c := by
    unfold ElementMark.innerStop Tree.mark Tree.last
    cases (Tags.ofChildren c.children).closing <;> rfl
  unfold Element.TiledFrom
  rw [Tree.mark_element, Tree.entries_element, hstart, hstop]
  unfold Tree.entries
  split
  · rfl
  · exact tiled_entriesOf (fun d hd => hroot d (Cst.mem_walk_of_child hc hd)) _ _

/-- An element of a tree is that of a node, and holds what stands between its tags. -/
theorem HasOrigin.tiledFrom {e : Element} (h : HasOrigin text tags root e.entry)
    (hroot : ∀ c ∈ root.walk, c.startByte ≤ c.stopByte) :
    ∃ c ∈ root.walk, entryOf (.ofText text tags) c = some e.entry ∧ e.TiledFrom c := by
  rcases h with ⟨_, _, _, _, he⟩ | ⟨c, hc, he⟩
  · cases he
  refine ⟨c, hc, he, ?_⟩
  rcases entryOf_cases he with ⟨-, heq⟩ | ⟨_, heq⟩ | ⟨_, heq⟩
  · obtain rfl : e = Tree.element (.ofText text tags) c :=
      Option.some.inj (congrArg Entry.element? heq)
    exact tiledFrom_element hc hroot
  · cases heq
  · cases heq

/-- **Markup tiles its source**, whatever tree a grammar returns for it, as long as no node ends
before it starts. There is a document, and its entries lie one after the other from the start of
the text to its end; every mark in it is in place, so that each of the lookups of a line finds
one; and every element in it is that of a node, and holds nothing if the start tag closes it, or
else entries that tile what stands between its tags. -/
theorem build_tiles (grammars : Grammars) (text : Text) (tags : List Text) (root : Cst)
    (hgrammar : grammars markupLanguage 0 text = .ok root)
    (hroot : ∀ c ∈ root.walk, c.startByte ≤ c.stopByte) :
    ∃ d, (Document.build grammars text tags).result = .ok d ∧
      Tiled 0 text.length d.children ∧
      (∀ e ∈ walkAll d.children, ∀ m ∈ e.marks, ∃ a b, m.PlacedIn text a b) ∧
      ∀ e ∈ elements d.children, ∃ c ∈ root.walk,
        entryOf (.ofText text tags) c = some e.entry ∧ e.TiledFrom c := by
  have hchildren : ∀ c ∈ root.children, c ∈ root.walk := fun c hc =>
    Cst.mem_walk_of_child root.mem_walk_self hc
  have horigin : ∀ x ∈ walkAll (Document.ofTree text tags root).children,
      HasOrigin text tags root x := hasOrigin_entriesOf root.children hchildren (Nat.le_refl _)
  refine ⟨.ofTree text tags root, ?_, ?_, fun e he => (horigin e he).placed hroot, ?_⟩
  · unfold Document.build
    rw [hgrammar]
  · exact tiled_entriesOf (fun c hc => hroot c (hchildren c hc)) 0 text.length
  · intro e he
    obtain ⟨x, hx, hxe⟩ := List.mem_filterMap.1 he
    obtain rfl : x = e.entry := by
      cases x with
      | element name mark as children content =>
        cases hxe
        rfl
      | text _ | comment _ _ | other _ _ | fragment _ | document _ => cases hxe
    exact (horigin e.entry hx).tiledFrom hroot

end Origin

/-! ## A tree out of joint -/

namespace OutOfJoint

/-- A node of a kind with a span and children. -/
def node (kind : String) (startByte stopByte : Int) (children : List Cst) : Cst :=
  ⟨kind, startByte, stopByte, true, false, false, children⟩

/-- A text with a character of two bytes. -/
def text : Text := "<a>é</a>b".toList

/-- An element with a comment that starts inside the character, one that overlaps the element, a
comment before the text, and an element whose start tag lies behind the text and its end tag
before it. -/
def root : Cst :=
  node "fragment" 0 10
    [node "element" 0 9
        [node "start_tag" 0 3 [node "tag_name" 1 2 []], node "comment" 4 5 [],
          node "end_tag" 5 9 []],
      node "element" 2 5 [], node "comment" (-3) (-1) [],
      node "element" 9 10
        [node "start_tag" 40 50 [], node "end_tag" 2 3 [], node "comment" 9 10 []]]

end OutOfJoint

/-- What its tree is made of: two elements side by side, the first with the comment in it, the
second empty. -/
theorem build_tiles_outOfJoint :
    ((∀ c ∈ OutOfJoint.root.walk, c.startByte ≤ c.stopByte) ∧
      (walkAll (Document.ofTree OutOfJoint.text [] OutOfJoint.root).children).filterMap
          (fun e => e.mark?.map fun m => (m.start, m.stop)) = [(0, 8), (3, 4), (8, 9)]) ∧
      ∃ d, (Document.build (fun _ _ _ => .ok OutOfJoint.root) OutOfJoint.text []).result = .ok d ∧
        Tiled 0 OutOfJoint.text.length d.children ∧
        (∀ e ∈ walkAll d.children, ∀ m ∈ e.marks, ∃ a b, m.PlacedIn OutOfJoint.text a b) ∧
        ∀ e ∈ elements d.children, ∃ c ∈ OutOfJoint.root.walk,
          entryOf (.ofText OutOfJoint.text []) c = some e.entry ∧ e.TiledFrom c :=
  ⟨⟨by decide, by decide +kernel⟩,
    build_tiles (fun _ _ _ => .ok OutOfJoint.root) OutOfJoint.text [] OutOfJoint.root rfl
      (by decide)⟩

end Markup

end SingleFile
