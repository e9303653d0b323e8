import SingleFile.Proofs.Markup.Contents
import SingleFile.Proofs.Markup.WellFormed

/-!
# Markup — trees of nested nodes

A grammar that nests its nodes gives entries that nest: an element holds
the marks of its tags and of all that stands between them
(`inside_entryOf`), and entries between two offsets lie there in order
(`ordered_entriesOf`). Spans count bytes and marks count characters, and
the conversion keeps the order.
-/

namespace SingleFile

/-- **A tree whose nodes nest**: a node ends after it starts, its children lie in it
one after the other, and a start tag comes before an end tag next to it. -/
inductive Cst.Nested : Cst → Prop
  | intro {node : Cst} (ordered : node.startByte ≤ node.stopByte)
      (inside : ∀ c ∈ node.children, node.startByte ≤ c.startByte ∧ c.stopByte ≤ node.stopByte)
      (siblings : node.children.Pairwise fun a b => a.stopByte ≤ b.startByte)
      (tags : ∀ a ∈ node.children, ∀ b ∈ node.children,
        a.kind = "start_tag" ∨ a.kind = "self_closing_tag" → b.kind = "end_tag" →
          a.stopByte ≤ b.startByte)
      (below : ∀ c ∈ node.children, c.Nested) : Nested node

namespace Cst.Nested

variable {node c : Cst}

/-- A nested node ends after it starts. -/
theorem le (h : node.Nested) : node.startByte ≤ node.stopByte := by
  cases h with
  | intro ordered => exact ordered

/-- Its children are nested. -/
theorem child (h : node.Nested) (hc : c ∈ node.children) : c.Nested := by
  cases h with
  | intro ordered inside siblings tags below => exact below c hc

/-- They are converted to spans inside it. -/
theorem bounds (h : node.Nested) (hc : c ∈ node.children) (offsets : ByteOffsets) :
    offsets.charIndex node.startByte ≤ offsets.charIndex c.startByte ∧
      offsets.charIndex c.startByte ≤ offsets.charIndex c.stopByte ∧
        offsets.charIndex c.stopByte ≤ offsets.charIndex node.stopByte := by
  have hchild := (h.child hc).le
  cases h with
  | intro ordered inside siblings tags below =>
    obtain ⟨hstart, hstop⟩ := inside c hc
    exact ⟨offsets.charIndex_mono hstart, offsets.charIndex_mono hchild,
      offsets.charIndex_mono hstop⟩

end Cst.Nested

namespace Cst

mutual
/-- Whether the nodes of a tree nest. -/
def nests : Cst → Bool
  | ⟨_, startByte, stopByte, _, _, _, children⟩ =>
    decide (startByte ≤ stopByte) &&
      decide (∀ c ∈ children, startByte ≤ c.startByte ∧ c.stopByte ≤ stopByte) &&
      decide (children.Pairwise fun a b => a.stopByte ≤ b.startByte) &&
      decide (∀ a ∈ children, ∀ b ∈ children,
        a.kind = "start_tag" ∨ a.kind = "self_closing_tag" → b.kind = "end_tag" →
          a.stopByte ≤ b.startByte) && nestsAll children

/-- Whether those of several trees do. -/
def nestsAll : List Cst → Bool
  | [] => true
  | c :: cs => nests c && nestsAll cs
end

mutual
/-- A tree that passes the check nests. -/
theorem nested_of_nests : ∀ {c : Cst}, c.nests = true → c.Nested
  | ⟨kind, startByte, stopByte, isNamed, isMissing, hasError, children⟩, h => by
    simp only [nests, Bool.and_eq_true, decide_eq_true_eq] at h
    obtain ⟨⟨⟨⟨hordered, hinside⟩, hsiblings⟩, htags⟩, hbelow⟩ := h
    exact .intro hordered hinside hsiblings htags (nested_of_nestsAll hbelow)

/-- And so do several. -/
theorem nested_of_nestsAll : ∀ {cs : List Cst}, nestsAll cs = true → ∀ c ∈ cs, c.Nested
  | [], _ => List.forall_mem_nil _
  | c :: cs, h => by
    rw [nestsAll, Bool.and_eq_true] at h
    exact List.forall_mem_cons.2 ⟨nested_of_nests h.1, nested_of_nestsAll h.2⟩
end

end Cst

/-- A mark lies between two offsets. -/
def Mark.Between (m : Mark) (start stop : Nat) : Prop :=
  (start : Int) ≤ m.start ∧ m.start ≤ m.stop ∧ m.stop ≤ stop

/-- Between offsets further apart it lies as well. -/
theorem Mark.Between.mono {m : Mark} {start stop start' stop' : Nat} (h : m.Between start stop)
    (h1 : start' ≤ start) (h2 : stop ≤ stop') : m.Between start' stop' := by
  obtain ⟨h3, h4, h5⟩ := h
  exact ⟨by omega, h4, by omega⟩

namespace Markup

/-! ## Tags -/

namespace Tags

variable {children : List Cst} {c : Cst}

/-- The start tag is one of the children. -/
theorem mem_of_opening (h : (Tags.ofChildren children).opening = some c) :
    c ∈ children ∧ (c.kind = "start_tag" ∨ c.kind = "self_closing_tag") := by
  have hkind := List.find?_some h
  refine ⟨List.mem_of_find?_eq_some h, ?_⟩
  simpa using hkind

/-- So is the end tag. -/
theorem mem_of_closing (h : (Tags.ofChildren children).closing = some c) :
    c ∈ children ∧ c.kind = "end_tag" := by
  have hfind := (Option.filter_eq_some_iff.1 h).1
  have hkind := List.find?_some hfind
  refine ⟨List.mem_of_find?_eq_some hfind, ?_⟩
  simpa using hkind

end Tags

/-- **The tags of an element nest** around what stands between `first` and `last`. -/
structure ElementMark.Nested (mark : ElementMark) (start first last stop : Nat) : Prop where
  whole : mark.whole.start = start ∧ mark.whole.stop = stop
  opening : ∀ m, mark.startTag = some m →
    (start : Int) ≤ m.start ∧ m.start ≤ m.stop ∧ m.stop = first
  before : start ≤ first
  inner : first ≤ last
  after : last ≤ stop
  closing : ∀ m, mark.endTag = some m → m.start = last ∧ m.start ≤ m.stop ∧ m.stop ≤ stop

/-- **The marks of a nested element node nest.** -/
theorem Tree.nested_mark {s : Source} {c : Cst} (h : c.Nested) :
    (Tree.mark s c).Nested (s.offsets.charIndex c.startByte) (Tree.first s c) (Tree.last s c)
      (s.offsets.charIndex c.stopByte) where
  whole := ⟨rfl, rfl⟩
  opening := by
    intro m hm
    obtain ⟨o, ho, rfl⟩ := Option.map_eq_some_iff.1 hm
    obtain ⟨h1, h2, -⟩ := h.bounds (Tags.mem_of_opening ho).1 s.offsets
    refine ⟨Int.ofNat_le.2 h1, Int.ofNat_le.2 h2, ?_⟩
    unfold Tree.first
    rw [ho]
    rfl
  before := by
    unfold Tree.first
    cases ho : (Tags.ofChildren c.children).opening with
    | none => exact Nat.le_refl _
    | some o =>
      obtain ⟨h1, h2, -⟩ := h.bounds (Tags.mem_of_opening ho).1 s.offsets
      exact Nat.le_trans h1 h2
  inner := by
    unfold Tree.first Tree.last
    cases ho : (Tags.ofChildren c.children).opening with
    | none =>
      cases he : (Tags.ofChildren c.children).closing with
      | none => exact s.offsets.charIndex_mono h.le
      | some e => exact (h.bounds (Tags.mem_of_closing he).1 s.offsets).1
    | some o =>
      cases he : (Tags.ofChildren c.children).closing with
      | none => exact (h.bounds (Tags.mem_of_opening ho).1 s.offsets).2.2
      | some e =>
        -- the one place where the order of the tags counts
        cases h with
        | intro ordered inside siblings tags below =>
          exact s.offsets.charIndex_mono (tags o (Tags.mem_of_opening ho).1 e
            (Tags.mem_of_closing he).1 (Tags.mem_of_opening ho).2 (Tags.mem_of_closing he).2)
  after := by
    unfold Tree.last
    cases he : (Tags.ofChildren c.children).closing with
    | none => exact Nat.le_refl _
    | some e =>
      obtain ⟨-, h2, h3⟩ := h.bounds (Tags.mem_of_closing he).1 s.offsets
      exact Nat.le_trans h2 h3
  closing := by
    intro m hm
    obtain ⟨e, he, rfl⟩ := Option.map_eq_some_iff.1 hm
    obtain ⟨-, h2, h3⟩ := h.bounds (Tags.mem_of_closing he).1 s.offsets
    refine ⟨?_, Int.ofNat_le.2 h2, Int.ofNat_le.2 h3⟩
    unfold Tree.last
    rw [he]
    rfl

/-! ## Entries in order -/

variable {s : Source}

/-- The entry of a node is marked where the node is. -/
theorem mark?_entryOf {c : Cst} {e : Entry} (h : entryOf s c = some e) :
    e.mark? = some (s.markOf c) := by
  rcases entryOf_cases h with ⟨-, rfl⟩ | ⟨_, rfl⟩ | ⟨_, rfl⟩
  · unfold Tree.element
    split <;> rfl
  · rfl
  · rfl

/-- Marks that follow one another between two offsets. -/
def Ordered (start stop : Nat) (ms : List Mark) : Prop :=
  ms.Pairwise (fun a b => a.stop ≤ b.start) ∧
    ∀ m ∈ ms, m.Between start stop

/-- The gap between two offsets is in order. -/
theorem ordered_gap (a b : Nat) : Ordered a b ((s.gap a b).filterMap Entry.mark?) := by
  unfold Source.gap
  split
  · refine ⟨List.pairwise_singleton _ _, fun m hm => ?_⟩
    obtain rfl := List.mem_singleton.1 hm
    exact ⟨Int.le_refl _, Int.ofNat_le.2 (by omega), Int.le_refl _⟩
  · exact ⟨.nil, List.forall_mem_nil _⟩

/-- Marks in order before and after an offset are in order. -/
theorem Ordered.append {start mid stop : Nat} {ms ns : List Mark} (hm : Ordered start mid ms)
    (hn : Ordered mid stop ns) (h1 : start ≤ mid) (h2 : mid ≤ stop) :
    Ordered start stop (ms ++ ns) := by
  refine ⟨List.pairwise_append.2 ⟨hm.1, hn.1, fun a ha b hb => ?_⟩, fun m h => ?_⟩
  · exact Int.le_trans (hm.2 a ha).2.2 (hn.2 b hb).1
  · rcases List.mem_append.1 h with h | h
    · obtain ⟨h3, h4, h5⟩ := hm.2 m h
      exact ⟨h3, h4, by omega⟩
    · obtain ⟨h3, h4, h5⟩ := hn.2 m h
      exact ⟨by omega, h4, h5⟩

/-- **Entries between two offsets lie there in order**, whatever nodes they are
made of, as long as none ends before it starts. -/
theorem ordered_entriesOf {cs : List Cst} (hcs : ∀ c ∈ cs, c.startByte ≤ c.stopByte)
    (cursor stop : Nat) :
    Ordered cursor stop ((entriesOf s cursor stop cs).filterMap Entry.mark?) := by
  induction cs generalizing cursor with
  | nil => exact ordered_gap cursor stop
  | cons c cs ih =>
    obtain ⟨hc, hcs⟩ := List.forall_mem_cons.1 hcs
    have hle := s.offsets.charIndex_mono hc
    rw [entriesOf]
    split
    · exact ih hcs cursor
    · rename_i e he
      split
      · exact ih hcs cursor
      · rename_i hfits
        rw [not_or, Nat.not_lt, Nat.not_lt] at hfits
        rw [List.filterMap_append, List.filterMap_cons_some (mark?_entryOf he)]
        have hnode : Ordered (s.offsets.charIndex c.startByte) (s.offsets.charIndex c.stopByte)
            [s.markOf c] := by
          refine ⟨List.pairwise_singleton _ _, fun m hm => ?_⟩
          obtain rfl := List.mem_singleton.1 hm
          exact ⟨Int.le_refl _, Int.ofNat_le.2 hle, Int.le_refl _⟩
        exact (ordered_gap cursor _).append (hnode.append (ih hcs _) hle hfits.2) hfits.1
          (hle.trans hfits.2)

/-! ## Entries inside their element -/

/-- What an entry reads of the source lies between two offsets: its text, or the
tags of its element. -/
def Entry.FitsIn (start stop : Nat) : Entry → Prop
  | .text m => m.Between start stop
  | .element _ mark _ _ _ =>
    mark.tag.Between start stop ∧ ∀ m, mark.endTag = some m → m.Between start stop
  | .comment _ _ | .other _ _ | .fragment _ | .document _ => True

/-- Between offsets further apart it does as well. -/
theorem Entry.FitsIn.mono {e : Entry} {start stop start' stop' : Nat} (h : e.FitsIn start stop)
    (h1 : start' ≤ start) (h2 : stop ≤ stop') : e.FitsIn start' stop' := by
  cases e with
  | text m => exact Mark.Between.mono h h1 h2
  | element name mark as children content =>
    exact ⟨h.1.mono h1 h2, fun m hm => (h.2 m hm).mono h1 h2⟩
  | comment _ _ | other _ _ | fragment _ | document _ => trivial

/-- What is read of an element is itself and what it holds. -/
theorem Element.walk_entry (e : Element) : e.entry.walk = e.entry :: walkAll e.entries := by
  obtain ⟨name, mark, as, children, content⟩ := e
  cases content <;> rfl

/-- The tags of an element whose marks nest lie in it. -/
theorem ElementMark.Nested.fitsIn {e : Element} {start first last stop : Nat}
    (h : e.mark.Nested start first last stop) : e.entry.FitsIn start stop := by
  obtain ⟨⟨h1, h2⟩, hopening, hbefore, hinner, hafter, hclosing⟩ := h
  refine ⟨?_, fun m hm => ?_⟩
  · unfold ElementMark.tag
    cases hm : e.mark.startTag with
    | none =>
      rw [Option.getD_none]
      exact ⟨by omega, by omega, by omega⟩
    | some m =>
      obtain ⟨h3, h4, h5⟩ := hopening m hm
      exact ⟨h3, h4, by rw [Option.getD_some]; omega⟩
  · obtain ⟨h3, h4, h5⟩ := hclosing m hm
    exact ⟨by omega, h4, h5⟩

/-- What is read of several lists of entries. -/
theorem walkAll_append (es fs : List Entry) : walkAll (es ++ fs) = walkAll es ++ walkAll fs := by
  induction es with
  | nil => rfl
  | cons e es ih => rw [List.cons_append, walkAll, walkAll, ih, List.append_assoc]

/-- A gap lies between its offsets. -/
theorem fitsIn_gap {a b : Nat} : ∀ x ∈ walkAll (s.gap a b), x.FitsIn a b := by
  unfold Source.gap
  split
  · intro x hx
    rw [walkAll, walkAll, Entry.walk, List.append_nil] at hx
    obtain rfl := List.mem_singleton.1 hx
    exact ⟨Int.le_refl _, Int.ofNat_le.2 (by omega), Int.le_refl _⟩
  · exact List.forall_mem_nil _

mutual
/-- **What is read below a nested node lies in it.** -/
theorem inside_entryOf (s : Source) : ∀ {c : Cst} {e : Entry}, c.Nested → entryOf s c = some e →
    ∀ x ∈ e.walk, x.FitsIn (s.offsets.charIndex c.startByte) (s.offsets.charIndex c.stopByte)
  | ⟨kind, startByte, stopByte, isNamed, isMissing, hasError, children⟩, e, h, he => by
    intro x hx
    rcases entryOf_cases he with ⟨-, rfl⟩ | ⟨_, rfl⟩ | ⟨_, rfl⟩
    · have hmark := Tree.nested_mark (s := s) h
      rw [Element.walk_entry, Tree.entries_element] at hx
      rcases List.mem_cons.1 hx with rfl | hx
      · rw [← Tree.mark_element] at hmark
        exact hmark.fitsIn
      · unfold Tree.entries at hx
        split at hx
        · cases hx
        · exact inside_entriesOf s children (fun c hc => ⟨h.child hc, (h.bounds hc s.offsets).1,
            (h.bounds hc s.offsets).2.2⟩) hmark.before hmark.after x hx
    · obtain rfl := List.mem_singleton.1 hx
      trivial
    · obtain rfl := List.mem_singleton.1 hx
      trivial

/-- And so does what is read of nested nodes between two offsets. -/
theorem inside_entriesOf (s : Source) {start stop : Nat} : ∀ (cs : List Cst) {cursor limit : Nat},
    (∀ c ∈ cs, c.Nested ∧ start ≤ s.offsets.charIndex c.startByte ∧
      s.offsets.charIndex c.stopByte ≤ stop) →
    start ≤ cursor → limit ≤ stop →
    ∀ x ∈ walkAll (entriesOf s cursor limit cs), x.FitsIn start stop
  | [], cursor, limit, _, hcursor, hlimit => by
    intro x hx
    exact (fitsIn_gap x hx).mono hcursor hlimit
  | c :: cs, cursor, limit, hcs, hcursor, hlimit => by
    obtain ⟨⟨hc, hstart, hstop⟩, hrest⟩ := List.forall_mem_cons.1 hcs
    have hle := s.offsets.charIndex_mono hc.le
    intro x hx
    rw [entriesOf] at hx
    split at hx
    · exact inside_entriesOf s cs hrest hcursor hlimit x hx
    · rename_i e he
      split at hx
      · exact inside_entriesOf s cs hrest hcursor hlimit x hx
      · rw [walkAll_append, walkAll] at hx
        rcases List.mem_append.1 hx with hx | hx
        · exact (fitsIn_gap x hx).mono hcursor (by omega)
        · rcases List.mem_append.1 hx with hx | hx
          · exact (inside_entryOf s hc he x hx).mono hstart hstop
          · exact inside_entriesOf s cs hrest (by omega) hlimit x hx
end

end Markup

end SingleFile
