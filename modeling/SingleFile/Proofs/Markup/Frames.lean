import SingleFile.Proofs.Markup.Tiles

/-!
# Markup — the frames of elements

Where the spans of a tree nest, an element of its document is a frame: its
tags, its attributes and the entries it holds lie between its ends, and the
entries follow one another (`frames_element`). No order is asked of the tags
among themselves: an end tag in front of the start tag leaves an empty element,
which is a frame still.
-/

namespace SingleFile

/-- A child of a node is converted to a span inside that of the node. -/
theorem Cst.SpansNest.bounds {root c d : Cst} (h : root.SpansNest) (hc : c ∈ root.walk)
    (hd : d ∈ c.children) (offsets : ByteOffsets) :
    offsets.charIndex c.startByte ≤ offsets.charIndex d.startByte ∧
      offsets.charIndex d.startByte ≤ offsets.charIndex d.stopByte ∧
        offsets.charIndex d.stopByte ≤ offsets.charIndex c.stopByte := by
  obtain ⟨hstart, hstop⟩ := h.inside c hc d hd
  have hordered := h.ordered d (Cst.mem_walk_of_child hc hd)
  exact ⟨offsets.charIndex_mono hstart, offsets.charIndex_mono hordered,
    offsets.charIndex_mono hstop⟩

namespace Markup

/-! ## Marks in order -/

/-- Between offsets further apart marks are in order as well. -/
theorem Ordered.mono {start stop start' stop' : Nat} {ms : List Mark} (h : Ordered start stop ms)
    (h1 : start' ≤ start) (h2 : stop ≤ stop') : Ordered start' stop' ms :=
  ⟨h.1, fun m hm => (h.2 m hm).mono h1 h2⟩

/-- **The first of some marks in order** ends where the others may start. -/
theorem Ordered.exists_of_cons {start stop : Nat} {m : Mark} {ms : List Mark}
    (h : Ordered start stop (m :: ms)) :
    ∃ first last : Nat, m.start = first ∧ m.stop = last ∧ start ≤ first ∧ first ≤ last ∧
      last ≤ stop ∧ Ordered last stop ms := by
  obtain ⟨hpairs, hbetween⟩ := h
  obtain ⟨hlater, hpairs⟩ := List.pairwise_cons.1 hpairs
  obtain ⟨⟨h1, h2, h3⟩, hbetween⟩ := List.forall_mem_cons.1 hbetween
  obtain ⟨first, hfirst⟩ := Int.eq_ofNat_of_zero_le (show 0 ≤ m.start by omega)
  obtain ⟨last, hlast⟩ := Int.eq_ofNat_of_zero_le (show 0 ≤ m.stop by omega)
  refine ⟨first, last, hfirst, hlast, by omega, by omega, by omega, hpairs, fun m' hm' => ?_⟩
  obtain ⟨-, h5, h6⟩ := hbetween m' hm'
  have hle := hlater m' hm'
  exact ⟨by omega, h5, h6⟩

/-! ## Frames -/

/-- **An element is a frame** between two offsets: it begins and ends there, its tags and its
attributes lie between them, and so do the entries it holds, one after the other. -/
structure Element.Frames (e : Element) (start stop : Nat) : Prop where
  whole : e.mark.whole.start = start ∧ e.mark.whole.stop = stop
  tag : e.mark.tag.Between start stop
  endTag : ∀ m, e.mark.endTag = some m → m.Between start stop
  attributes : ∀ a ∈ e.attributes, a.mark.Between start stop
  entries : Ordered start stop (e.entries.filterMap Entry.mark?)

/-- What is read of an entry stands in a text of a given size: its text, or the frame that its
element is. -/
def Entry.Framed (size : Nat) : Entry → Prop
  | .text m => m.Between 0 size
  | .element name mark as children content =>
    ∃ start stop, stop ≤ size ∧ Element.Frames ⟨name, mark, as, children, content⟩ start stop
  | .comment _ _ | .other _ _ | .fragment _ | .document _ => True

variable {s : Source} {text : Text} {tags : List Text} {root c : Cst}

/-- A child is marked inside its node. -/
theorem between_markOf {d : Cst} (h : root.SpansNest) (hc : c ∈ root.walk) (hd : d ∈ c.children) :
    (s.markOf d).Between (s.offsets.charIndex c.startByte) (s.offsets.charIndex c.stopByte) := by
  obtain ⟨h1, h2, h3⟩ := h.bounds hc hd s.offsets
  exact ⟨Int.ofNat_le.2 h1, Int.ofNat_le.2 h2, Int.ofNat_le.2 h3⟩

/-- **The element of a node is a frame** where the spans of the tree nest. -/
theorem frames_element (h : root.SpansNest) (hc : c ∈ root.walk) :
    (Tree.element s c).Frames (s.offsets.charIndex c.startByte)
      (s.offsets.charIndex c.stopByte) := by
  have hle := s.offsets.charIndex_mono (h.ordered c hc)
  constructor
  case whole =>
    rw [Tree.mark_element]
    exact ⟨rfl, rfl⟩
  case tag =>
    rw [Tree.mark_element]
    unfold ElementMark.tag Tree.mark
    cases ho : (Tags.ofChildren c.children).opening with
    | none => exact ⟨Int.le_refl _, Int.ofNat_le.2 hle, Int.le_refl _⟩
    | some o => exact between_markOf h hc (Tags.mem_of_opening ho).1
  case endTag =>
    rw [Tree.mark_element]
    intro m hm
    obtain ⟨o, ho, rfl⟩ := Option.map_eq_some_iff.1 hm
    exact between_markOf h hc (Tags.mem_of_closing ho).1
  case attributes =>
    rw [Tree.attributes_element]
    intro a ha
    obtain ⟨o, ho, d, hd, hmark⟩ := Tree.exists_of_mem_attributes ha
    obtain ⟨h1, -, h2⟩ := h.bounds hc ho s.offsets
    rw [hmark]
    exact (between_markOf h (Cst.mem_walk_of_child hc ho) hd).mono h1 h2
  case entries =>
    rw [Tree.entries_element]
    unfold Tree.entries
    split
    · exact ⟨.nil, List.forall_mem_nil _⟩
    · -- the tags need not be in order: what stands between them is then nothing
      have hbetween := ordered_entriesOf (s := s)
        (fun d hd => h.ordered d (Cst.mem_walk_of_child hc hd)) (Tree.first s c) (Tree.last s c)
      refine hbetween.mono ?_ ?_
      · unfold Tree.first
        cases ho : (Tags.ofChildren c.children).opening with
        | none => exact Nat.le_refl _
        | some o =>
          obtain ⟨h1, h2, -⟩ := h.bounds hc (Tags.mem_of_opening ho).1 s.offsets
          exact Nat.le_trans h1 h2
      · unfold Tree.last
        cases he : (Tags.ofChildren c.children).closing with
        | none => exact Nat.le_refl _
        | some e =>
          obtain ⟨-, h2, h3⟩ := h.bounds hc (Tags.mem_of_closing he).1 s.offsets
          exact Nat.le_trans h2 h3

/-- An entry of a tree whose spans nest stands in the text. -/
theorem HasOrigin.framed {e : Entry} (h : HasOrigin text tags root e) (hnest : root.SpansNest) :
    e.Framed text.length := by
  rcases h with ⟨a, b, hlt, hb, rfl⟩ | ⟨c, hc, he⟩
  · exact ⟨Int.natCast_nonneg a, Int.ofNat_le.2 (Nat.le_of_lt hlt), Int.ofNat_le.2 hb⟩
  rcases entryOf_cases he with ⟨-, rfl⟩ | ⟨_, rfl⟩ | ⟨_, rfl⟩
  · exact ⟨_, _, ByteOffsets.charIndex_le text _, frames_element hnest hc⟩
  · trivial
  · trivial

/-- **Every entry of a document** stands in the text, when the spans of the tree nest. -/
theorem framed_ofTree (hnest : root.SpansNest) :
    ∀ x ∈ walkAll (Document.ofTree text tags root).children, x.Framed text.length := by
  have hchildren : ∀ c ∈ root.children, c ∈ root.walk := fun c hc =>
    Cst.mem_walk_of_child root.mem_walk_self hc
  intro x hx
  exact (hasOrigin_entriesOf root.children hchildren (Nat.le_refl _) x hx).framed hnest

/-- **And its entries follow one another** there. -/
theorem ordered_ofTree (hnest : root.SpansNest) :
    Ordered 0 text.length ((Document.ofTree text tags root).children.filterMap Entry.mark?) :=
  ordered_entriesOf (fun c hc =>
    hnest.ordered c (Cst.mem_walk_of_child root.mem_walk_self hc)) 0 text.length

end Markup

end SingleFile
