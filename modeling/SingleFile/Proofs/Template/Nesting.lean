import SingleFile.Proofs.Markup.Frames
import SingleFile.Proofs.Template.Ensures
import SingleFile.Proofs.Template.Entries
import SingleFile.Proofs.Template.Parents

/-!
# Templates — ranges nest

The reader of a template finds the ends of names, values and expressions anew, by
looking at the source. Its scans never leave the offsets they are given, so what is read
of an attribute stays in the attribute whatever its characters are
(`yields_readAttribute`); what is read of a run of text is arranged between the ends of
the run (`arranged_runs`), and what is read of a frame is arranged in the frame
(`arranged_visit`). A document over markup whose
spans nest is therefore a tree of ranges that nest, and the children of each of its
nodes are in the order of the source (`ranges_nest`).
-/

namespace SingleFile

namespace Template

/-! ## Nodes that enclose their children -/

/-- A place reaches from one offset to another. -/
def Place.Spans (p : Place) (start stop : Int) : Prop :=
  (p.range.start : Int) = start ∧ (p.range.stop : Int) = stop

/-- A place lies between two offsets. -/
def Place.Within (p : Place) (start stop : Int) : Prop :=
  start ≤ p.range.start ∧ (p.range.stop : Int) ≤ stop

/-- The children of a document or an element, without its own tags and attributes. -/
def Item.nodes : Item → List Item
  | .root _ children => children
  | .element _ _ _ _ _ children => children
  | _ => []

/-- **A node encloses its children**: their ranges lie in its own, and those that are not tags and
attributes follow one another. -/
structure Item.Encloses (x : Item) : Prop where
  inside : ∀ y ∈ x.children, x.place.range.contains y.place.range = true
  ordered : x.nodes.Pairwise fun a b => a.place.range.stop ≤ b.place.range.start

/-- **Nodes arranged** between two offsets: they lie there one after the other, and each of them
encloses its children, as does all below it. -/
structure Arranged (start stop : Int) (vs : List Node) : Prop where
  inside : ∀ v ∈ vs, v.item.place.Within start stop
  ordered : vs.Pairwise fun a b => a.item.place.range.stop ≤ b.item.place.range.start
  encloses : ∀ x ∈ Node.walkAll vs, x.Encloses

section Arranged

variable {start mid stop : Int} {vs ws : List Node} {p q : Place}

/-- A place that spans some offsets holds all places within them. -/
theorem Place.Spans.contains (hp : p.Spans start stop) (hq : q.Within start stop) :
    p.range.contains q.range = true := by
  obtain ⟨h1, h2⟩ := hp
  obtain ⟨h3, h4⟩ := hq
  exact decide_eq_true ⟨by omega, by omega⟩

/-- A place that spans some offsets lies between any further apart. -/
theorem Place.Spans.within {start' stop' : Int} (hp : p.Spans start stop) (h1 : start' ≤ start)
    (h2 : stop ≤ stop') : p.Within start' stop' := by
  obtain ⟨h3, h4⟩ := hp
  exact ⟨by omega, by omega⟩

/-- A node with nothing below it encloses it. -/
theorem Item.encloses_of_leaf {x : Item} (hchildren : x.children = []) (hnodes : x.nodes = []) :
    x.Encloses where
  inside := by
    rw [hchildren]
    exact List.forall_mem_nil _
  ordered := by
    rw [hnodes]
    exact .nil

/-- What is below an attribute has nothing below it. -/
theorem Attribute.encloses_walk {a : Attribute} (h : (Item.attr a).Encloses) :
    ∀ x ∈ a.walk, x.Encloses := by
  intro x hx
  rcases List.mem_cons.1 hx with rfl | hx
  · exact h
  · rcases List.mem_cons.1 hx with rfl | hx
    · cases a.key <;> exact Item.encloses_of_leaf rfl rfl
    · obtain ⟨content, -, rfl⟩ := Option.map_eq_some_iff.1 (Option.mem_toList.1 hx)
      cases content <;> exact Item.encloses_of_leaf rfl rfl

/-- No nodes are arranged anywhere. -/
theorem arranged_nil : Arranged start stop [] :=
  ⟨List.forall_mem_nil _, .nil, List.forall_mem_nil _⟩

/-- **Nodes arranged** up to an offset and from it on are arranged together. -/
theorem Arranged.append (hvs : Arranged start mid vs) (hws : Arranged mid stop ws)
    (h1 : start ≤ mid) (h2 : mid ≤ stop) : Arranged start stop (vs ++ ws) where
  inside := by
    rw [List.forall_mem_append]
    refine ⟨fun v hv => ?_, fun w hw => ?_⟩
    · obtain ⟨h3, h4⟩ := hvs.inside v hv
      exact ⟨h3, Int.le_trans h4 h2⟩
    · obtain ⟨h3, h4⟩ := hws.inside w hw
      exact ⟨Int.le_trans h1 h3, h4⟩
  ordered := by
    refine List.pairwise_append.2 ⟨hvs.ordered, hws.ordered, fun v hv w hw => ?_⟩
    have h3 := (hvs.inside v hv).2
    have h4 := (hws.inside w hw).1
    omega
  encloses := by
    rw [Node.walkAll_append, List.forall_mem_append]
    exact ⟨hvs.encloses, hws.encloses⟩

/-- The items that they are follow one another. -/
theorem Arranged.ordered_items (h : Arranged start stop vs) :
    (Node.items vs).Pairwise fun a b => a.place.range.stop ≤ b.place.range.start := by
  rw [Node.items_eq_map, List.pairwise_map]
  exact h.ordered

/-- Arranged nodes are arranged between offsets further apart. -/
theorem Arranged.mono {start' stop' : Int} (h : Arranged start stop vs) (h1 : start' ≤ start)
    (h2 : stop ≤ stop') : Arranged start' stop' vs :=
  ⟨fun v hv => ⟨Int.le_trans h1 (h.inside v hv).1, Int.le_trans (h.inside v hv).2 h2⟩, h.ordered,
    h.encloses⟩

/-- A run of text is arranged where it stands. -/
theorem arranged_text {run : TextRun} (h : run.place.Spans start stop) :
    Arranged start stop [.text run] where
  inside := List.forall_mem_singleton.2 (h.within (Int.le_refl _) (Int.le_refl _))
  ordered := List.pairwise_singleton _ _
  encloses := List.forall_mem_singleton.2 (Item.encloses_of_leaf rfl rfl)

/-- So is an expression. -/
theorem arranged_container {expression : Container} (h : expression.place.Spans start stop) :
    Arranged start stop [.container expression] where
  inside := List.forall_mem_singleton.2 (h.within (Int.le_refl _) (Int.le_refl _))
  ordered := List.pairwise_singleton _ _
  encloses := List.forall_mem_singleton.2 (Item.encloses_of_leaf rfl rfl)

/-- **An element** is arranged where it stands, when all that is in it lies there and its children
are arranged there. -/
theorem arranged_element {name : Text} {opening : OpeningTag} {closing : Option ClosingTag}
    {attributes : List Attribute} (hp : p.Spans start stop)
    (hopening : opening.place.Within start stop)
    (hattributes : ∀ a ∈ attributes, a.place.Within start stop ∧ (Item.attr a).Encloses)
    (hchildren : Arranged start stop vs)
    (hclosing : ∀ tag ∈ closing, tag.place.Within start stop) :
    Arranged start stop [.element p name opening closing attributes vs] where
  inside := List.forall_mem_singleton.2 (hp.within (Int.le_refl _) (Int.le_refl _))
  ordered := List.pairwise_singleton _ _
  encloses := by
    have hwhole : (Item.element p name opening closing attributes (Node.items vs)).Encloses := by
      refine ⟨fun y hy => hp.contains ?_, hchildren.ordered_items⟩
      simp only [Item.children, Node.items_eq_map, List.mem_append, List.mem_cons, List.mem_map,
        Option.mem_toList] at hy
      rcases hy with ((rfl | ⟨a, ha, rfl⟩) | ⟨v, hv, rfl⟩) | ⟨tag, htag, rfl⟩
      · exact hopening
      · exact (hattributes a ha).1
      · exact hchildren.inside v hv
      · exact hclosing tag htag
    intro x hx
    rw [Node.walkAll_cons, Node.walkAll_nil, List.append_nil, Node.walk_element] at hx
    simp only [List.mem_append, List.mem_cons, List.mem_flatMap, List.mem_map] at hx
    rcases hx with ((rfl | rfl | ⟨a, ha, hx⟩) | hx) | ⟨tag, -, rfl⟩
    · exact hwhole
    · exact Item.encloses_of_leaf rfl rfl
    · exact Attribute.encloses_walk (hattributes a ha).2 x hx
    · exact hchildren.encloses x hx
    · exact Item.encloses_of_leaf rfl rfl

end Arranged

namespace Context

variable {c : Context} {start stop : Int}

/-- A place spans its offsets. -/
theorem yields_place : (c.place start stop).Yields fun p => p.Spans start stop :=
  ensures_place.imp fun _ _ h => h.2

/-! ## Leaves -/

/-- A run of text spans its offsets. -/
theorem yields_textRun : (c.textRun start stop).Yields fun x => x.place.Spans start stop :=
  Emission.yields_bind fun _ => yields_place.bind fun _ hp => Emission.ensures_pure hp

/-- So does an expression, with its delimiters. -/
theorem yields_container (openSize closeSize : Nat) :
    (c.container start stop openSize closeSize).Yields fun x => x.place.Spans start stop :=
  Emission.yields_bind fun _ => Emission.yields_bind fun _ => Emission.yields_bind fun _ =>
    Emission.yields_bind fun _ => yields_place.bind fun _ hp => Emission.ensures_pure hp

/-- So does a name. -/
theorem yields_named : (c.named start stop).Yields fun x => x.place.Spans start stop :=
  Emission.yields_bind fun _ => yields_place.bind fun _ hp => Emission.ensures_pure hp

/-- And that of a directive. -/
theorem yields_directiveKey :
    (c.directiveKey start stop).Yields fun x => x.place.Spans start stop :=
  Emission.yields_bind fun _ => yields_place.bind fun _ hp => Emission.ensures_pure hp

/-- So does a value that is taken as it stands. -/
theorem yields_attributeValue (value : Text) :
    (c.attributeValue start stop value).Yields fun x => x.place.Spans start stop :=
  Emission.yields_bind fun _ => yields_place.bind fun _ hp => Emission.ensures_pure hp

/-! ## Attributes -/

/-- **A name between two offsets** is found there, however far the characters of a name go on. -/
theorem yields_nameBetween {sign : Int} (h1 : start ≤ sign) (h2 : sign ≤ stop) :
    (c.nameBetween start sign stop).Yields fun x => x.place.Within start stop := by
  unfold nameBetween
  refine Emission.Yields.bind (P := fun first => start ≤ first ∧ first ≤ stop) ?_ ?_
  · refine Emission.ensures_ofExcept fun first hfirst => ?_
    have := bounds_of_skipUp hfirst
    omega
  · intro first hfirst
    refine Emission.Yields.bind (P := fun last => last ≤ sign) ?_ ?_
    · refine Emission.ensures_ofExcept fun last hlast => ?_
      exact (bounds_of_skipDown hlast).2
    · -- a name that starts behind the sign is empty
      intro last hlast
      exact yields_named.imp fun x _ hx => hx.within (by omega) (by omega)

/-- **The key of an attribute** lies in the attribute. -/
theorem yields_readKey (directive : Bool) {sign : Int} (h1 : start ≤ sign) (h2 : sign ≤ stop) :
    (c.readKey directive start sign stop).Yields fun key =>
      key.item.place.Within start stop := by
  unfold readKey
  cases directive with
  | true =>
    refine Emission.Yields.bind (P := fun last => last ≤ sign) ?_ ?_
    · refine Emission.ensures_ofExcept fun last hlast => ?_
      exact (bounds_of_skipDown hlast).2
    · intro last hlast
      refine yields_directiveKey.bind fun x hx => Emission.ensures_pure ?_
      exact hx.within (Int.le_refl _) (by omega)
  | false =>
    rw [if_neg Bool.false_ne_true]
    exact (yields_nameBetween h1 h2).bind fun x hx => Emission.ensures_pure hx

/-- **The value between two offsets** begins behind the blanks there and goes on to the end. -/
theorem yields_attributeContent (directive : Bool) (value : Text) :
    (c.attributeContent directive value start stop).Yields fun x =>
      x.item.place.Within start stop := by
  unfold attributeContent
  refine Emission.Yields.bind (P := fun first => start ≤ first) ?_ ?_
  · exact Emission.ensures_ofExcept fun first hfirst => (bounds_of_skipUp hfirst).1
  · intro first hfirst
    refine Emission.yields_bind fun size => ?_
    cases directive with
    | true =>
      refine (yields_container size size).bind fun x hx => Emission.ensures_pure ?_
      exact hx.within hfirst (Int.le_refl _)
    | false =>
      refine (yields_attributeValue value).bind fun x hx => Emission.ensures_pure ?_
      exact hx.within hfirst (Int.le_refl _)

/-- **The value of an attribute** lies behind its sign. -/
theorem yields_readContent (directive : Bool) (value : Text) {sign : Int} :
    (c.readContent directive value sign stop).Yields fun content =>
      ∀ x ∈ content, x.item.place.Within sign stop := by
  unfold readContent
  split
  · refine Emission.yields_bind fun _ => ?_
    refine (yields_attributeContent directive value).bind fun x hx => ?_
    refine Emission.ensures_pure fun y hy => ?_
    obtain rfl := Option.some.inj hy
    obtain ⟨h1, h2⟩ := hx
    exact ⟨by omega, h2⟩
  · exact Emission.ensures_pure fun x hx => by cases hx

/-- **An attribute** spans its mark and encloses its key and its value. -/
theorem yields_readAttribute {x : Markup.Attribute} (h1 : 0 ≤ x.mark.start)
    (h2 : x.mark.start ≤ x.mark.stop) :
    (c.readAttribute x).Yields fun a =>
      a.place.Spans x.mark.start x.mark.stop ∧ (Item.attr a).Encloses := by
  obtain ⟨hsign, hstop⟩ := bounds_of_sign (t := c.text) (d := '=') h1 h2
  rw [readAttribute_bind x rfl]
  refine (yields_readKey _ hsign hstop).bind fun key hkey => ?_
  refine (yields_readContent _ x.value).bind fun content hcontent => ?_
  refine yields_place.bind fun p hp => Emission.ensures_pure ⟨hp, ?_, .nil⟩
  intro y hy
  refine hp.contains ?_
  rcases List.mem_cons.1 hy with rfl | hy
  · exact hkey
  · obtain ⟨value, hvalue, rfl⟩ := Option.map_eq_some_iff.1 (Option.mem_toList.1 hy)
    obtain ⟨h3, h4⟩ := hcontent value hvalue
    exact ⟨Int.le_trans hsign h3, h4⟩

/-- **Several attributes** between two offsets. -/
theorem yields_attributes {first last : Nat} {as : List Markup.Attribute}
    (h : ∀ x ∈ as, x.mark.Between first last) :
    (c.attributes as).Yields fun bs =>
      ∀ a ∈ bs, a.place.Within first last ∧ (Item.attr a).Encloses := by
  induction as with
  | nil => exact Emission.ensures_pure (List.forall_mem_nil _)
  | cons x as ih =>
    obtain ⟨⟨h1, h2, h3⟩, has⟩ := List.forall_mem_cons.1 h
    refine (yields_readAttribute (by omega) h2).bind fun a ha => ?_
    refine (ih has).bind fun bs hbs => Emission.ensures_pure ?_
    exact List.forall_mem_cons.2 ⟨⟨ha.1.within h1 h3, ha.2⟩, hbs⟩

/-! ## Tags -/

/-- **A start tag** spans its mark, and its attributes lie where their marks do. -/
theorem yields_openingTag {e : Markup.Element} {first last : Nat} (h : e.Frames first last) :
    (c.openingTag e.mark e.attributes).Yields fun v =>
      v.1.place.Within first last ∧
        ∀ a ∈ v.2, a.place.Within first last ∧ (Item.attr a).Encloses := by
  obtain ⟨h1, -, h2⟩ := h.tag
  unfold openingTag
  refine Emission.yields_bind fun slash => Emission.yields_bind fun _ =>
    Emission.yields_bind fun _ => ?_
  refine (yields_attributes h.attributes).bind fun bs hbs => ?_
  refine Emission.yields_bind fun _ => yields_place.bind fun p hp => Emission.ensures_pure ?_
  exact ⟨hp.within h1 h2, hbs⟩

/-- **An end tag** likewise, where there is one. -/
theorem yields_closingTag {e : Markup.Element} {first last : Nat} (h : e.Frames first last) :
    (c.closingTag e.mark).Yields fun v => ∀ tag ∈ v, tag.place.Within first last := by
  unfold closingTag
  cases hend : e.mark.endTag with
  | none => exact Emission.ensures_pure fun tag htag => by cases htag
  | some m =>
    obtain ⟨h1, -, h2⟩ := h.endTag m hend
    refine Emission.yields_bind fun _ => Emission.yields_bind fun _ =>
      Emission.yields_bind fun _ => yields_place.bind fun p hp => Emission.ensures_pure ?_
    intro tag htag
    obtain rfl := Option.some.inj htag
    exact hp.within h1 h2

/-! ## Runs of text -/

/-- The literal text up to an offset, unless there is none. -/
theorem arranged_textBefore :
    (if start < stop then c.textRun start stop >>= fun r => pure [Node.text r]
      else pure [] : Emission (List Node)).Yields (Arranged start stop) := by
  split
  · exact yields_textRun.bind fun _ hrun => Emission.ensures_pure (arranged_text hrun)
  · exact Emission.ensures_pure arranged_nil

/-- **A run of text**, from a cursor on. -/
theorem arranged_runs {cursor last : Nat} {spans : List (Nat × Nat)}
    (h : Chained c.text c.opening c.closing cursor last spans) :
    (c.runs cursor last spans).Yields (Arranged cursor last) := by
  induction spans generalizing cursor with
  | nil => exact arranged_textBefore
  | cons span rest ih =>
    obtain ⟨first, next⟩ := span
    obtain ⟨h1, h2, -, hrest⟩ := h
    have hnext := hrest.le
    rw [runs_cons]
    refine arranged_textBefore.bind fun before hbefore => ?_
    refine (yields_container _ _).bind fun expression hexpression => ?_
    refine (ih hrest).bind fun more hmore => Emission.ensures_pure ?_
    exact hbefore.append ((arranged_container hexpression).append hmore (by omega) (by omega))
      (by omega) (by omega)

/-! ## Entries -/

/-- An entry without a mark is not read. -/
theorem yields_unmarked {e : Markup.Entry} (h : e.mark? = none) {P : List Node → Prop} :
    (c.visit e).Yields P := by
  cases e with
  | fragment _ | document _ =>
    rw [visit]
    exact Emission.yields_breach
  | text _ | comment _ _ | other _ _ | element _ _ _ _ _ => cases h

mutual
/-- **An entry** is arranged where it is marked. -/
theorem arranged_visit : ∀ {e : Markup.Entry} {first last : Nat},
    (∀ x ∈ e.walk, x.Framed c.text.length) →
    (∀ m, e.mark? = some m → m.start = first ∧ m.stop = last) → first ≤ last →
    (c.visit e).Yields (Arranged first last)
  | .text m, first, last, h, hmark, hle => by
    obtain ⟨hstart, hstop⟩ := hmark m rfl
    obtain ⟨-, -, hlength⟩ : m.Between 0 c.text.length := h _ (List.mem_singleton.2 rfl)
    rw [visit, readText, hstart, hstop]
    exact arranged_runs (chained_interpolations hle (by omega))
  | .comment _ _, _, _, _, _, _ => by
    rw [visit]
    exact Emission.yields_bind fun _ => Emission.ensures_pure arranged_nil
  | .other _ _, _, _, _, _, _ => by
    rw [visit]
    exact Emission.yields_bind fun _ => Emission.ensures_pure arranged_nil
  | .element name mark as children content, first, last, h, hmark, _ => by
    have hwalk := Markup.Element.walk_entry ⟨name, mark, as, children, content⟩
    change (Markup.Entry.element name mark as children content).walk = _ at hwalk
    rw [hwalk] at h
    obtain ⟨⟨a, b, -, hframe⟩, hinner⟩ := List.forall_mem_cons.1 h
    obtain ⟨hstart, hstop⟩ := hmark mark.whole rfl
    obtain ⟨ha, hb⟩ := hframe.whole
    obtain rfl : first = a := Int.ofNat_inj.1 (hstart.symm.trans ha)
    obtain rfl : last = b := Int.ofNat_inj.1 (hstop.symm.trans hb)
    have hentries : (c.visitAll (content.getD children)).Yields (Arranged first last) := by
      cases content with
      | some entries => exact arranged_visitAll hinner hframe.entries
      | none => exact arranged_visitAll hinner hframe.entries
    rw [visit_element]
    refine (yields_openingTag hframe).bind fun opened hopened => ?_
    refine hentries.bind fun inner hinner => ?_
    refine (yields_closingTag hframe).bind fun closing hclosing => ?_
    rw [hstart, hstop]
    refine yields_place.bind fun p hp => Emission.ensures_pure ?_
    exact arranged_element hp hopened.1 hopened.2 hinner hclosing
  | .fragment _, _, _, _, _, _ => yields_unmarked rfl
  | .document _, _, _, _, _, _ => yields_unmarked rfl

/-- **Several entries** in order. -/
theorem arranged_visitAll : ∀ {es : List Markup.Entry} {first last : Nat},
    (∀ x ∈ Markup.walkAll es, x.Framed c.text.length) →
    Markup.Ordered first last (es.filterMap Markup.Entry.mark?) →
    (c.visitAll es).Yields (Arranged first last)
  | [], _, _, _, _ => by
    rw [visitAll]
    exact Emission.ensures_pure arranged_nil
  | e :: es, first, last, h, hordered => by
    rw [Markup.walkAll, List.forall_mem_append] at h
    rw [visitAll]
    cases hmark : e.mark? with
    | none => exact Emission.Yields.bind (yields_unmarked hmark (P := fun _ => False)) fun _ => nofun
    | some m =>
      rw [List.filterMap_cons_some hmark] at hordered
      obtain ⟨a, b, hstart, hstop, h1, h2, h3, hrest⟩ := hordered.exists_of_cons
      have hfirst := arranged_visit h.1 (fun m' hm' => by
        obtain rfl : m = m' := Option.some.inj (hmark.symm.trans hm')
        exact ⟨hstart, hstop⟩) h2
      refine hfirst.bind fun vs hvs => ?_
      refine (arranged_visitAll h.2 hrest).bind fun ws hws => Emission.ensures_pure ?_
      exact (hvs.mono (by omega) (Int.le_refl _)).append hws (by omega) (by omega)
end

/-! ## Documents -/

/-- The bounds of marks hold the marks. -/
theorem foldl_bounds_hold (ms : List Mark) (b : Int × Int) :
    ((ms.foldl (fun b m => (min b.1 m.start, max b.2 m.stop)) b).1 ≤ b.1 ∧
      b.2 ≤ (ms.foldl (fun b m => (min b.1 m.start, max b.2 m.stop)) b).2) ∧
    ∀ m ∈ ms, (ms.foldl (fun b m => (min b.1 m.start, max b.2 m.stop)) b).1 ≤ m.start ∧
      m.stop ≤ (ms.foldl (fun b m => (min b.1 m.start, max b.2 m.stop)) b).2 := by
  induction ms generalizing b with
  | nil => exact ⟨⟨Int.le_refl _, Int.le_refl _⟩, List.forall_mem_nil _⟩
  | cons m ms ih =>
    obtain ⟨hb, hms⟩ := ih (min b.1 m.start, max b.2 m.stop)
    rw [List.foldl_cons]
    exact ⟨by omega, List.forall_mem_cons.2 ⟨by omega, hms⟩⟩

/-- **Entries in order lie between their bounds.** -/
theorem ordered_bounds {es : List Markup.Entry} {size : Nat}
    (h : Markup.Ordered 0 size (es.filterMap Markup.Entry.mark?)) :
    ∃ first last : Nat, bounds es = (↑first, ↑last) ∧
      Markup.Ordered first last (es.filterMap Markup.Entry.mark?) := by
  unfold bounds
  cases hms : es.filterMap Markup.Entry.mark? with
  | nil => exact ⟨0, 0, rfl, .nil, List.forall_mem_nil _⟩
  | cons m ms =>
    rw [hms] at h
    obtain ⟨hm, hbetween⟩ := List.forall_mem_cons.1 h.2
    obtain ⟨first, last, hfold, -⟩ :=
      exists_foldl_bounds (b := (m.start, m.stop)) ms (fun m' hm' => hbetween m' hm') hm
    obtain ⟨hb, hheld⟩ := foldl_bounds_hold ms (m.start, m.stop)
    rw [hfold] at hb hheld
    refine ⟨first, last, hfold, h.1, fun m' hm' => ?_⟩
    rcases List.mem_cons.1 hm' with rfl | hmem
    · exact ⟨hb.1, hm.2.1, hb.2⟩
    · exact ⟨(hheld m' hmem).1, (hbetween m' hmem).2.1, (hheld m' hmem).2⟩

/-- **A document** encloses its children, and so does every node below it. -/
theorem encloses_readDocument {es : List Markup.Entry}
    (h : ∀ x ∈ Markup.walkAll es, x.Framed c.text.length)
    (hordered : Markup.Ordered 0 c.text.length (es.filterMap Markup.Entry.mark?)) :
    (c.readDocument es).Yields fun d => ∀ x ∈ (Item.document d).walk, x.Encloses := by
  obtain ⟨first, last, hbounds, hmarks⟩ := ordered_bounds hordered
  unfold readDocument
  simp only [hbounds]
  refine (arranged_visitAll h hmarks).bind fun vs hvs => ?_
  refine yields_place.bind fun p hp => Emission.ensures_pure ?_
  refine List.forall_mem_cons.2 ⟨⟨fun y hy => ?_, hvs.ordered_items⟩, hvs.encloses⟩
  obtain ⟨v, hv, rfl⟩ := List.mem_map.1 (Node.items_eq_map vs ▸ hy)
  exact hp.contains (hvs.inside v hv)

end Context

/-! ## Both passes -/

/-- **Ranges nest**, whatever tree a grammar returns whose spans do, whatever tags keep their
children apart, and whatever the settings and the script reader are. There is a document, and when
its entries are transformed every node below the root is a child of its parent and has its range in
that of its parent, and the children of the root and of every element follow one another without
overlap. -/
theorem ranges_nest (grammars : Grammars) (text : Text) (tags : List Text) (root : Cst)
    (hgrammar : grammars markupLanguage 0 text = .ok root) (hnest : root.SpansNest) :
    ∃ d, (Markup.Document.build grammars text tags).result = .ok d ∧
      ∀ (parser : ScriptParser) (settings : TemplateSettings) (result : Result),
        (transform d.children text parser settings).2 = .ok result →
          (∀ i x, (Item.document result.root).walk[i]? = some x → 0 < i →
            ∃ j y, result.root.parents[i]? = some (some j) ∧
              (Item.document result.root).walk[j]? = some y ∧ x ∈ y.children ∧
                y.place.range.start ≤ x.place.range.start ∧
                x.place.range.stop ≤ y.place.range.stop) ∧
          result.root.children.Pairwise
            (fun a b => a.item.place.range.stop ≤ b.item.place.range.start) ∧
          ∀ place name opening closing attributes children,
            .element place name opening closing attributes children ∈
              (Item.document result.root).walk →
            children.Pairwise fun a b => a.place.range.stop ≤ b.place.range.start := by
  refine ⟨.ofTree text tags root, ?_, fun parser settings result hok => ?_⟩
  · unfold Markup.Document.build
    rw [hgrammar]
  · have hencloses : ∀ x ∈ (Item.document result.root).walk, x.Encloses :=
      Transformer.ensures_start
        ((Context.ofSettings text parser settings transformerName).encloses_readDocument
          (Markup.framed_ofTree hnest) (Markup.ordered_ofTree hnest)) hok
    refine ⟨fun i x hx hi => ?_, ?_, fun _ _ _ _ _ _ hx => (hencloses _ hx).ordered⟩
    · obtain ⟨j, y, hplace, hy, hmem⟩ := result.root.exists_parent hx hi
      have hinside := (hencloses y (List.mem_of_getElem? hy)).inside x hmem
      exact ⟨j, y, hplace, hy, hmem, of_decide_eq_true hinside⟩
    · have hroot := (hencloses (.document result.root) List.mem_cons_self).ordered
      change (Node.items result.root.children).Pairwise _ at hroot
      rwa [Node.items_eq_map, List.pairwise_map] at hroot

/-! ## An attribute without a name -/

namespace Nameless

/-- A tag with an attribute that begins with its sign, around a letter and an interpolation. -/
def text : Text := "<a =c>b{{d}}</a>".toList

/-- A node of a kind with a span and children. -/
def node (kind : String) (startByte stopByte : Int) (children : List Cst) : Cst :=
  ⟨kind, startByte, stopByte, true, false, false, children⟩

/-- Its tree; the interpolation is left to the text. -/
def root : Cst :=
  node "document" 0 16
    [node "element" 0 16
      [node "start_tag" 0 6
          [node "tag_name" 1 2 [],
            node "attribute" 3 5 [node "attribute_name" 3 3 [], node "attribute_value" 4 5 []]],
        node "text" 6 12 [], node "end_tag" 12 16 [node "tag_name" 14 15 []]]]

/-- Its spans nest. -/
theorem spansNest : root.SpansNest := ⟨by decide, by decide, by decide⟩

/-- The script reader that rejects everything. -/
def parser : ScriptParser := fun _ _ => .error (.syntaxError ⟨"Unexpected token", 0, ⟨1, 0⟩⟩)

end Nameless

/-- Its name is looked for behind the sign, and what is found is empty and lies in the attribute,
which is its parent: the element, its tags and the expression in it nest as they do elsewhere. -/
theorem ranges_nest_nameless :
    ∃ d result, (Markup.Document.build (fun _ _ _ => .ok Nameless.root) Nameless.text []).result =
        .ok d ∧
      (transform d.children Nameless.text Nameless.parser {}).2 = .ok result ∧
      ((Item.document result.root).walk.map fun x => (x.typeName, x.place.range.span)) =
        [("HTMLDocument", 0, 16), ("HTMLElement", 0, 16), ("HTMLStartTag", 0, 6),
          ("HTMLAttribute", 3, 5), ("HTMLIdentifier", 4, 4), ("HTMLAttributeValue", 4, 5),
          ("HTMLText", 6, 7), ("HTMLExpressionContainer", 7, 12), ("HTMLEndTag", 12, 16)] ∧
      result.root.parents =
        [none, some 0, some 1, some 1, some 3, some 3, some 1, some 1, some 1] ∧
      (∀ i x, (Item.document result.root).walk[i]? = some x → 0 < i →
        ∃ j y, result.root.parents[i]? = some (some j) ∧
          (Item.document result.root).walk[j]? = some y ∧ x ∈ y.children ∧
            y.place.range.start ≤ x.place.range.start ∧
            x.place.range.stop ≤ y.place.range.stop) ∧
      result.root.children.Pairwise
        (fun a b => a.item.place.range.stop ≤ b.item.place.range.start) ∧
      ∀ place name opening closing attributes children,
        .element place name opening closing attributes children ∈
          (Item.document result.root).walk →
        children.Pairwise fun a b => a.place.range.stop ≤ b.place.range.start := by
  obtain ⟨d, hd, hnests⟩ := ranges_nest (fun _ _ _ => .ok Nameless.root) Nameless.text []
    Nameless.root rfl Nameless.spansNest
  obtain rfl : Markup.Document.ofTree Nameless.text [] Nameless.root = d := Except.ok.inj hd
  have hrun : ((transform (Markup.Document.ofTree Nameless.text [] Nameless.root).children
      Nameless.text Nameless.parser {}).2.toOption.map fun result =>
        ((Item.document result.root).walk.map fun x => (x.typeName, x.place.range.span),
          result.root.parents)) =
      some ([("HTMLDocument", 0, 16), ("HTMLElement", 0, 16), ("HTMLStartTag", 0, 6),
          ("HTMLAttribute", 3, 5), ("HTMLIdentifier", 4, 4), ("HTMLAttributeValue", 4, 5),
          ("HTMLText", 6, 7), ("HTMLExpressionContainer", 7, 12), ("HTMLEndTag", 12, 16)],
        [none, some 0, some 1, some 1, some 3, some 3, some 1, some 1, some 1]) := by
    decide +kernel
  cases hresult : (transform (Markup.Document.ofTree Nameless.text [] Nameless.root).children
      Nameless.text Nameless.parser {}).2 with
  | error e =>
    rw [hresult] at hrun
    cases hrun
  | ok result =>
    rw [hresult] at hrun
    obtain ⟨hwalk, hparents⟩ := Prod.ext_iff.1 (Option.some.inj hrun)
    exact ⟨_, result, hd, hresult, hwalk, hparents, hnests _ _ result hresult⟩

end Template

end SingleFile
