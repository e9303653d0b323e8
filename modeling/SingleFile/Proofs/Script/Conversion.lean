import Mathlib.Data.List.Nodup
import SingleFile.Proofs.Emission
import SingleFile.Proofs.Grammar.Bytes
import SingleFile.Proofs.Grammar.Trees
import SingleFile.Proofs.Location.Agreement
import SingleFile.Script.Tree

/-!
# Script programs — nothing of a tree is lost

A grammar reads a text in which some characters are replaced, and counts
its bytes; the program shows the text as it was. When the spans of a tree
nest and lie on character boundaries, the tree is converted without loss:
every leaf that is not empty becomes one token or comment, in order, and
every node that is come to through named children becomes one node of the
program, each with the characters that its bytes stand for
(`parser_converts`). A root that is itself kept whole is one leaf, but its
named children become nodes all the same (`whole_root_opened`).
-/

namespace SingleFile

namespace Script

/-! ## The text that the grammar reads -/

/-- Replacing characters keeps their number. -/
@[simp] theorem length_cleaned (t : Text) : (cleaned t).length = t.length := List.length_map _

/-- A part is cleaned as it is in the whole text. -/
theorem cleaned_slice {t : Text} {a b : Nat} (hab : a ≤ b) (hb : b ≤ t.length) :
    cleaned (t.slice a b) = Text.slice (cleaned t) a b := by
  rw [Text.slice_natCast hb hab, Text.slice_natCast (by rw [length_cleaned]; exact hb) hab]
  unfold cleaned
  rw [List.map_drop, List.map_take]

/-- **What a node of a tree covers**: the characters of a range, between the boundaries where its
span lies. Their text becomes the bytes of the span when it is cleaned. -/
structure Covers (t : Text) (c : Cst) (range : Range) (raw : Text) : Prop where
  inside : range.stop ≤ t.length
  starts : c.startByte = Text.bytesBefore (cleaned t) range.start
  stops : c.stopByte = Text.bytesBefore (cleaned t) range.stop
  raw_eq : raw = range.of t
  bytes_eq : Text.bytes (cleaned raw) =
    ((Text.bytes (cleaned t)).take c.stopByte.toNat).drop c.startByte.toNat

/-- The span of a node lies on boundaries of the text that the grammar reads. -/
structure OnBoundaries (t : Text) (c : Cst) : Prop where
  start : Text.AtBoundary (cleaned t) c.startByte
  stop : Text.AtBoundary (cleaned t) c.stopByte

section

variable {t : Text} {c d : Cst} {r s : Range} {raw other : Text}

/-- **A span on boundaries covers** the characters that its ends are converted to. -/
theorem OnBoundaries.covers (h : OnBoundaries t c) (hle : c.startByte ≤ c.stopByte) :
    ∃ r : Range, (ByteOffsets.ofText (cleaned t)).span c = (r.start, r.stop) ∧
      Covers t c r (r.of t) := by
  have hrange := ByteOffsets.charIndex_mono (.ofText (cleaned t)) hle
  have hinside := ByteOffsets.charIndex_le (cleaned t) c.stopByte
  rw [length_cleaned] at hinside
  have hstarts := ByteOffsets.eq_bytesBefore_of_atBoundary h.start
  have hstops := ByteOffsets.eq_bytesBefore_of_atBoundary h.stop
  refine ⟨⟨_, _, hrange⟩, rfl, hinside, hstarts, hstops, rfl, ?_⟩
  unfold Range.of
  rw [cleaned_slice hrange hinside, Text.bytes_slice hrange (by rwa [length_cleaned])]
  conv_rhs => rw [hstarts, hstops, Int.toNat_natCast, Int.toNat_natCast]

/-- Spans in order cover characters in order. -/
theorem Covers.le (hc : Covers t c r raw) (hd : Covers t d s other)
    (h : c.stopByte ≤ d.startByte) : r.stop ≤ s.start := by
  have hrange := s.start_le_stop
  have hinside := hd.inside
  rw [hc.stops, hd.starts, Int.ofNat_le] at h
  exact (Text.bytesBefore_le_iff (by rw [length_cleaned]; exact hc.inside)
    (by rw [length_cleaned]; omega)).1 h

/-- A span that is not empty covers some character. -/
theorem Covers.start_lt_stop (hc : Covers t c r raw) (h : c.startByte ≠ c.stopByte) :
    r.start < r.stop := by
  refine Nat.lt_of_le_of_ne r.start_le_stop fun heq => h ?_
  rw [hc.starts, hc.stops, heq]

/-- An empty one covers none. -/
theorem Covers.start_eq_stop (hc : Covers t c r raw) (h : c.startByte = c.stopByte) :
    r.start = r.stop := by
  have hrange := r.start_le_stop
  have hinside := hc.inside
  rw [hc.starts, hc.stops, Int.ofNat_inj] at h
  refine Nat.le_antisymm hrange ?_
  exact (Text.bytesBefore_le_iff (by rw [length_cleaned]; exact hc.inside)
    (by rw [length_cleaned]; omega)).1 (Nat.le_of_eq h.symm)

/-- A span inside another covers characters inside its. -/
theorem Covers.contains (hc : Covers t c r raw) (hd : Covers t d s other)
    (h1 : c.startByte ≤ d.startByte) (h2 : d.stopByte ≤ c.stopByte) : r.contains s = true := by
  have hlen := length_cleaned t
  have hr := r.start_le_stop
  have hs := s.start_le_stop
  have hrt := hc.inside
  have hst := hd.inside
  rw [hc.starts, hd.starts, Int.ofNat_le] at h1
  rw [hc.stops, hd.stops, Int.ofNat_le] at h2
  unfold Range.contains
  rw [decide_eq_true_eq]
  exact ⟨(Text.bytesBefore_le_iff (by omega) (by omega)).1 h1,
    (Text.bytesBefore_le_iff (by omega) (by omega)).1 h2⟩

end

/-! ## The leaves -/

/-- A node has no children, or is kept whole. -/
def IsLeaf (c : Cst) : Prop := c.children = [] ∨ c.kind ∈ wholeKinds

/-- **A leaf of a tree**: come to from the root through nodes that are not leaves. -/
inductive LeafOf : Cst → Cst → Prop
  | self {c : Cst} : IsLeaf c → LeafOf c c
  | child {c d leaf : Cst} : ¬ IsLeaf c → d ∈ c.children → LeafOf d leaf → LeafOf c leaf

/-- The leaves of a leaf are itself. -/
theorem leaves_of_isLeaf {c : Cst} (h : IsLeaf c) : leaves c = [c] := by
  obtain ⟨kind, startByte, stopByte, isNamed, isMissing, hasError, children⟩ := c
  rw [leaves, if_pos]
  simpa [IsLeaf] using h

/-- Those of another node are the leaves of its children. -/
theorem leaves_of_not_isLeaf {c : Cst} (h : ¬ IsLeaf c) : leaves c = leavesAll c.children := by
  obtain ⟨kind, startByte, stopByte, isNamed, isMissing, hasError, children⟩ := c
  rw [leaves, if_neg]
  simpa [IsLeaf] using h

/-- The leaves of several nodes are those of each. -/
theorem leavesAll_eq_flatMap (cs : List Cst) : leavesAll cs = cs.flatMap leaves := by
  induction cs with
  | nil => rfl
  | cons c cs ih => rw [leavesAll, List.flatMap_cons, ih]

/-- **The leaves that are collected are the leaves of the tree.** -/
theorem mem_leaves_iff {c leaf : Cst} : leaf ∈ leaves c ↔ LeafOf c leaf := by
  induction c using Cst.induction_children with
  | h c ih =>
    by_cases hc : IsLeaf c
    · rw [leaves_of_isLeaf hc, List.mem_singleton]
      constructor
      · rintro rfl
        exact .self hc
      · intro h
        cases h with
        | self _ => rfl
        | child hnot _ _ => exact absurd hc hnot
    · rw [leaves_of_not_isLeaf hc, leavesAll_eq_flatMap, List.mem_flatMap]
      constructor
      · rintro ⟨d, hd, hleaf⟩
        exact .child hc hd ((ih d hd).1 hleaf)
      · intro h
        cases h with
        | self hself => exact absurd hself hc
        | child _ hd hleaf => exact ⟨_, hd, (ih _ hd).2 hleaf⟩

/-- **Leaves of a tree whose spans nest** lie inside it, one after the other. -/
theorem leaves_spansNest {c : Cst} (h : c.SpansNest) :
    ((leaves c).Pairwise fun a b => a.stopByte ≤ b.startByte) ∧
      ∀ leaf ∈ leaves c, leaf ∈ c.walk ∧ c.startByte ≤ leaf.startByte ∧
        leaf.stopByte ≤ c.stopByte := by
  induction c using Cst.induction_children with
  | h c ih =>
    by_cases hc : IsLeaf c
    · rw [leaves_of_isLeaf hc]
      refine ⟨List.pairwise_singleton _ _, fun leaf hleaf => ?_⟩
      rw [List.mem_singleton.1 hleaf]
      exact ⟨c.mem_walk_self, Int.le_refl _, Int.le_refl _⟩
    · have hchildren := fun d hd => ih d hd (h.child hd)
      rw [leaves_of_not_isLeaf hc, leavesAll_eq_flatMap]
      constructor
      · refine List.pairwise_flatMap.2 ⟨fun d hd => (hchildren d hd).1, ?_⟩
        refine (h.siblings c c.mem_walk_self).imp_of_mem fun {d e} hd he hde a ha b hb => ?_
        have hstop := ((hchildren d hd).2 a ha).2.2
        have hstart := ((hchildren e he).2 b hb).2.1
        omega
      · intro leaf hleaf
        obtain ⟨d, hd, hleaf⟩ := List.mem_flatMap.1 hleaf
        obtain ⟨hmem, hstart, hstop⟩ := (hchildren d hd).2 leaf hleaf
        obtain ⟨hfirst, hlast⟩ := h.inside c c.mem_walk_self d hd
        exact ⟨Cst.mem_walk_of_mem_child hd hmem, by omega, by omega⟩

/-! ## Tokens and comments -/

/-- **What leaves become**: one token or comment for each that is not empty, which covers it. -/
theorem exists_tokensOf {t : Text} {cs : List Cst}
    (h : ∀ c ∈ cs, OnBoundaries t c ∧ c.startByte ≤ c.stopByte) :
    ∃ found : List (Cst × Token),
      tokensOf t (.ofText t) (.ofText (cleaned t)) cs =
        .ok ((found.filter fun x => x.1.kind ≠ commentKind).map (·.2),
          (found.filter fun x => x.1.kind = commentKind).map (·.2)) ∧
      found.map (·.1) = cs.filter (fun c => c.startByte ≠ c.stopByte) ∧
      ∀ x ∈ found, Covers t x.1 x.2.range x.2.raw := by
  induction cs with
  | nil => exact ⟨[], rfl, rfl, List.forall_mem_nil _⟩
  | cons c cs ih =>
    obtain ⟨hc, hcs⟩ := List.forall_mem_cons.1 h
    obtain ⟨found, hfound, hleaves, hall⟩ := ih hcs
    obtain ⟨r, hspan, hcovers⟩ := hc.1.covers hc.2
    have hsource : ∀ kind value, ∃ token,
        Token.ofSource kind t (.ofText t) r.start r.stop value = .ok token ∧
          Covers t c token.range token.raw := fun kind value =>
      ⟨_, Token.ofSource_ofText r.start_le_stop hcovers.inside kind value, hcovers⟩
    rw [tokensOf, hspan]
    dsimp only
    by_cases hempty : c.startByte = c.stopByte
    · rw [if_pos (hcovers.start_eq_stop hempty), List.filter_cons_of_neg (by simpa using hempty)]
      exact ⟨found, hfound, hleaves, hall⟩
    · have hsome := hcovers.start_lt_stop hempty
      rw [if_neg (by omega), List.filter_cons_of_pos (by simpa using hempty)]
      split
      · rename_i hkind
        obtain ⟨comment, hcomment, hcovers⟩ := hsource
          (commentBody (t.slice r.start r.stop)).1 (some (commentBody (t.slice r.start r.stop)).2)
        refine ⟨(c, comment) :: found, ?_, by rw [List.map_cons, hleaves],
          List.forall_mem_cons.2 ⟨hcovers, hall⟩⟩
        rw [hcomment, hfound, List.filter_cons_of_neg (by simpa using hkind),
          List.filter_cons_of_pos (by simpa using hkind)]
        rfl
      · rename_i hkind
        obtain ⟨token, htoken, hcovers⟩ := hsource (tokenKind c) none
        refine ⟨(c, token) :: found, ?_, by rw [List.map_cons, hleaves],
          List.forall_mem_cons.2 ⟨hcovers, hall⟩⟩
        rw [htoken, hfound, List.filter_cons_of_pos (by simpa using hkind),
          List.filter_cons_of_neg (by simpa using hkind)]
        rfl

/-! ## Nodes -/

/-- The children that may become nodes: named ones that are no comments. -/
def parts (cs : List Cst) : List Cst := cs.filter fun c => c.isNamed && c.kind ≠ commentKind

mutual
/-- A node and all that is come to from it through its parts, not below what is kept whole. -/
def reached : Cst → List Cst
  | ⟨kind, startByte, stopByte, isNamed, isMissing, hasError, children⟩ =>
    ⟨kind, startByte, stopByte, isNamed, isMissing, hasError, children⟩ ::
      if wholeKinds.contains kind then [] else reachedAll children

/-- All that is come to from the parts among several nodes. -/
def reachedAll : List Cst → List Cst
  | [] => []
  | c :: cs =>
    if c.isNamed && c.kind ≠ commentKind then reached c ++ reachedAll cs else reachedAll cs
end

/-- **A node is come to from a root**: it is a part of the root, or of a node that is come to and not
kept whole. -/
inductive Reaches (root : Cst) : Cst → Prop
  | part {c : Cst} : c ∈ parts root.children → Reaches root c
  | step {c d : Cst} : Reaches root c → c.kind ∉ wholeKinds → d ∈ parts c.children → Reaches root d

/-- What is come to from several nodes is what is come to from each of their parts. -/
theorem reachedAll_eq_flatMap (cs : List Cst) : reachedAll cs = (parts cs).flatMap reached := by
  induction cs with
  | nil => rfl
  | cons c cs ih =>
    rw [reachedAll, ih]
    unfold parts
    split
    · rename_i hc
      rw [List.filter_cons, if_pos hc, List.flatMap_cons]
    · rename_i hc
      rw [List.filter_cons, if_neg hc]

/-- A node is come to from itself, with what is come to from its parts. -/
theorem mem_reached_iff {c d : Cst} :
    d ∈ reached c ↔ d = c ∨ c.kind ∉ wholeKinds ∧ ∃ e ∈ parts c.children, d ∈ reached e := by
  obtain ⟨kind, startByte, stopByte, isNamed, isMissing, hasError, children⟩ := c
  rw [reached, List.mem_cons]
  refine or_congr_right ?_
  dsimp only
  by_cases hwhole : kind ∈ wholeKinds
  · simp [hwhole]
  · rw [if_neg (by simpa using hwhole), reachedAll_eq_flatMap, List.mem_flatMap]
    exact (and_iff_right hwhole).symm

/-- What is come to from a node that is come to is come to. -/
theorem Reaches.trans {root c d : Cst} (hc : Reaches root c) (hd : d ∈ reached c) :
    Reaches root d := by
  induction c using Cst.induction_children with
  | h c ih =>
    rcases mem_reached_iff.1 hd with rfl | ⟨hwhole, e, he, hd⟩
    · exact hc
    · exact ih e (List.mem_of_mem_filter he) (hc.step hwhole he) hd

/-- The parts of what is come to from a node are come to from it. -/
theorem mem_reached_of_part {c d e : Cst} (hd : d ∈ reached c) (hwhole : d.kind ∉ wholeKinds)
    (he : e ∈ parts d.children) : e ∈ reached c := by
  induction c using Cst.induction_children with
  | h c ih =>
    rcases mem_reached_iff.1 hd with rfl | ⟨hc, f, hf, hd⟩
    · exact mem_reached_iff.2 (.inr ⟨hwhole, e, he, mem_reached_iff.2 (.inl rfl)⟩)
    · exact mem_reached_iff.2 (.inr ⟨hc, f, hf, ih f (List.mem_of_mem_filter hf) hd⟩)

/-- **The nodes that are listed are those that are come to.** -/
theorem mem_reachedAll_iff {root c : Cst} : c ∈ reachedAll root.children ↔ Reaches root c := by
  rw [reachedAll_eq_flatMap, List.mem_flatMap]
  constructor
  · rintro ⟨d, hd, hc⟩
    exact (Reaches.part hd).trans hc
  · intro h
    induction h with
    | part hc => exact ⟨_, hc, mem_reached_iff.2 (.inl rfl)⟩
    | step _ hwhole hd ih =>
      obtain ⟨e, he, hc⟩ := ih
      exact ⟨e, he, mem_reached_of_part hc hwhole hd⟩

/-- **A script node depicts a node of the tree**: it is of its kind and shows what it covers. -/
structure Depicts (t : Text) (c : Cst) (x : ScriptNode) : Prop where
  kind_eq : x.kind = c.kind
  covers : Covers t c x.range x.raw

/-- The range of every node contains those of its children. -/
def Contains (xs : List ScriptNode) : Prop :=
  ∀ x ∈ ScriptNode.walkAll xs, ∀ y ∈ x.children, x.range.contains y.range = true

/-- **What the parts of several nodes become**, when each of them becomes a node. -/
theorem exists_nodesOf {t : Text} {cs : List Cst}
    (h : ∀ c ∈ cs, ∃ x, nodeOf t (.ofText t) (.ofText (cleaned t)) c = .ok x ∧ Depicts t c x ∧
      List.Forall₂ (Depicts t) (reached c) x.walk ∧ Contains [x]) :
    ∃ xs, nodesOf t (.ofText t) (.ofText (cleaned t)) cs = .ok xs ∧
      (∀ x ∈ xs, ∃ c ∈ cs, Depicts t c x) ∧
      List.Forall₂ (Depicts t) (reachedAll cs) (ScriptNode.walkAll xs) ∧ Contains xs := by
  induction cs with
  | nil =>
    refine ⟨[], rfl, List.forall_mem_nil _, .nil, ?_⟩
    intro x hx
    cases hx
  | cons c cs ih =>
    obtain ⟨⟨x, hx, hdepicts, hbelow, hcontains⟩, hcs⟩ := List.forall_mem_cons.1 h
    obtain ⟨xs, hxs, hof, hall, hcontainsAll⟩ := ih hcs
    have hlater : ∀ y ∈ xs, ∃ d ∈ c :: cs, Depicts t d y := fun y hy =>
      (hof y hy).imp fun d hd => ⟨List.mem_cons_of_mem _ hd.1, hd.2⟩
    rw [nodesOf, reachedAll]
    split
    · refine ⟨x :: xs, ?_, ?_, ?_, ?_⟩
      · rw [hx, hxs]
        rfl
      · exact List.forall_mem_cons.2 ⟨⟨c, List.mem_cons_self, hdepicts⟩, hlater⟩
      · exact List.rel_append hbelow hall
      · intro y hy
        rw [ScriptNode.walkAll, List.mem_append] at hy
        rcases hy with hy | hy
        · exact hcontains y (by rwa [ScriptNode.walkAll, ScriptNode.walkAll, List.append_nil])
        · exact hcontainsAll y hy
    · exact ⟨xs, hxs, hlater, hall, hcontainsAll⟩

/-- **What a node becomes**: a script node that depicts it, and below that one for each node that is
come to from it. -/
theorem exists_nodeOf {t : Text} {c : Cst} (h : c.SpansNest)
    (hbytes : ∀ d ∈ c.walk, OnBoundaries t d) :
    ∃ x, nodeOf t (.ofText t) (.ofText (cleaned t)) c = .ok x ∧ Depicts t c x ∧
      List.Forall₂ (Depicts t) (reached c) x.walk ∧ Contains [x] := by
  induction c using Cst.induction_children with
  | h c ih =>
    have hself := c.mem_walk_self
    obtain ⟨r, hspan, hcovers⟩ := (hbytes c hself).covers (h.ordered c hself)
    obtain ⟨xs, hxs, hof, hall, hcontains⟩ := exists_nodesOf (t := t)
      fun d (hd : d ∈ c.children) => ih d hd (h.child hd) fun e he =>
        hbytes e (Cst.mem_walk_of_mem_child hd he)
    have hheld : ∀ x ∈ xs, r.contains x.range = true := by
      intro x hx
      obtain ⟨d, hd, hdepicts⟩ := hof x hx
      obtain ⟨hfirst, hlast⟩ := h.inside c hself d hd
      exact hcovers.contains hdepicts.covers hfirst hlast
    obtain ⟨kind, startByte, stopByte, isNamed, isMissing, hasError, children⟩ := c
    obtain ⟨hstart, hstop⟩ := Prod.mk.inj hspan
    dsimp only at hstart hstop
    have hlocation := LineIndex.location_ofText (t := t) (r.start_le_stop.trans hcovers.inside)
      hcovers.inside
    -- nothing is looked for below a node that is kept whole
    obtain ⟨kids, hnode, hbelow, hheld, hcontains⟩ : ∃ kids,
        nodeOf t (.ofText t) (.ofText (cleaned t))
            ⟨kind, startByte, stopByte, isNamed, isMissing, hasError, children⟩ =
          .ok ⟨kind, r, ⟨(LineIndex.ofText t).positionAt r.start,
            (LineIndex.ofText t).positionAt r.stop⟩, r.of t, kids⟩ ∧
        List.Forall₂ (Depicts t) (if wholeKinds.contains kind then [] else reachedAll children)
          (ScriptNode.walkAll kids) ∧
        (∀ x ∈ kids, r.contains x.range = true) ∧ Contains kids := by
      rw [nodeOf, hstart, hstop, Range.ofBounds_natCast r.start_le_stop, hlocation]
      split
      · exact ⟨[], rfl, .nil, List.forall_mem_nil _, fun x hx => by cases hx⟩
      · rw [hxs]
        exact ⟨xs, rfl, hall, hheld, hcontains⟩
    refine ⟨_, hnode, ⟨rfl, hcovers⟩, ?_, ?_⟩
    · rw [reached, ScriptNode.walk]
      exact .cons ⟨rfl, hcovers⟩ hbelow
    · intro x hx
      rw [ScriptNode.walkAll, ScriptNode.walkAll, List.append_nil, ScriptNode.walk] at hx
      rcases List.mem_cons.1 hx with rfl | hx
      · exact hheld
      · exact hcontains x hx

/-! ## Programs -/

/-- **A program converts a tree**: what was found at its leaves, in order, makes up the tokens and
the comments; what its nodes depict is what one comes to from the root. -/
structure Converts (t : Text) (root : Cst) (program : Program) (found : List (Cst × Token)) :
    Prop where
  leaves_eq : found.map (·.1) = (leaves root).filter fun c => c.startByte ≠ c.stopByte
  covers : ∀ x ∈ found, Covers t x.1 x.2.range x.2.raw
  apart : found.Pairwise fun x y => x.2.Before y.2
  tokens_eq : program.tokens = (found.filter fun x => x.1.kind ≠ commentKind).map (·.2)
  comments_eq : program.comments = (found.filter fun x => x.1.kind = commentKind).map (·.2)
  merged : (program.tokens ++ program.comments).mergeSort
    (fun a b => a.range.start ≤ b.range.start) = found.map (·.2)
  nodes : List.Forall₂ (Depicts t) (reachedAll root.children) (ScriptNode.walkAll program.body)
  contains : Contains program.body

/-- Tokens in order, none of them empty, are what sorting them by their starts gives. -/
theorem mergeSort_eq_of_perm {ts us : List Token} (hperm : us.Perm ts)
    (hts : ts.Pairwise Token.Before) (hne : ∀ a ∈ ts, a.range.start < a.range.stop) :
    us.mergeSort (fun a b => a.range.start ≤ b.range.start) = ts := by
  have hlt : ts.Pairwise fun a b => a.range.start < b.range.start :=
    hts.imp_of_mem fun {a b} ha _ hab => Nat.lt_of_lt_of_le (hne a ha) hab
  have hinj : (ts.map (·.range.start)).Nodup := (List.pairwise_map.2 hlt).imp Nat.ne_of_lt
  have hsorted : (us.mergeSort fun a b => a.range.start ≤ b.range.start).Pairwise
      fun a b => decide (a.range.start ≤ b.range.start) = true := by
    refine List.pairwise_mergeSort (fun a b c hab hbc => ?_) (fun a b => ?_) us
    · rw [decide_eq_true_eq] at hab hbc ⊢
      omega
    · rw [Bool.or_eq_true, decide_eq_true_eq, decide_eq_true_eq]
      omega
  have hsame := (List.mergeSort_perm us fun a b => decide (a.range.start ≤ b.range.start)).trans hperm
  refine hsame.eq_of_pairwise (fun a b ha hb hab hba => ?_) hsorted
    (hlt.imp fun h => decide_eq_true h.le)
  have hstart : a.range.start = b.range.start :=
    Nat.le_antisymm (of_decide_eq_true hab) (of_decide_eq_true hba)
  exact List.inj_on_of_nodup_map hinj (hsame.mem_iff.1 ha) hb hstart

/-- **Nothing of a tree is lost.** From a tree without an error, whose spans nest and lie on the
boundaries of the text that the grammar reads, the reader makes a program that converts it: its
tokens and comments are the leaves that are not empty, and its nodes are what one comes to from the
root through named nodes, never below one kept whole but for the root itself. -/
theorem parser_converts {grammars : Grammars} {language : Text} {asked : Nat} {t : Text} {root : Cst}
    (hroot : grammars language asked (cleaned t) = .ok root) (herror : root.hasError = false)
    (hnest : root.SpansNest) (hbytes : ∀ c ∈ root.walk, OnBoundaries t c) :
    ∃ program found, parser grammars language asked t = .ok program ∧
      Converts t root program found ∧ (∀ c, c ∈ leaves root ↔ LeafOf root c) ∧
      ∀ c, c ∈ reachedAll root.children ↔ Reaches root c := by
  obtain ⟨hordered, hleaves⟩ := leaves_spansNest hnest
  obtain ⟨found, hfound, hmap, hcovers⟩ := exists_tokensOf (t := t)
    fun c (hc : c ∈ leaves root) => ⟨hbytes c (hleaves c hc).1, hnest.ordered c (hleaves c hc).1⟩
  obtain ⟨body, hbody, -, hnodes, hcontains⟩ := exists_nodesOf (t := t)
    fun c (hc : c ∈ root.children) => exists_nodeOf (hnest.child hc) fun d hd =>
      hbytes d (Cst.mem_walk_of_mem_child hc hd)
  have hapart : found.Pairwise fun x y => x.2.Before y.2 := by
    have hspans : (found.map (·.1)).Pairwise fun a b => a.stopByte ≤ b.startByte :=
      hmap ▸ hordered.filter _
    exact (List.pairwise_map.1 hspans).imp_of_mem fun {x y} hx hy hxy =>
      (hcovers x hx).le (hcovers y hy) hxy
  have hsome : ∀ a ∈ found.map (·.2), a.range.start < a.range.stop := by
    intro a ha
    obtain ⟨x, hx, rfl⟩ := List.mem_map.1 ha
    have hmem : x.1 ∈ (leaves root).filter fun c => c.startByte ≠ c.stopByte :=
      hmap ▸ List.mem_map_of_mem hx
    exact (hcovers x hx).start_lt_stop (of_decide_eq_true (List.mem_filter.1 hmem).2)
  have hperm : ((found.filter fun x => x.1.kind ≠ commentKind).map (·.2) ++
      (found.filter fun x => x.1.kind = commentKind).map (·.2)).Perm (found.map (·.2)) := by
    have hparts := (List.filter_append_perm (fun x => decide (x.1.kind ≠ commentKind)) found).map
      (·.2)
    simpa using hparts
  refine ⟨⟨body, _, _, ⟨0, t.length, Nat.zero_le _⟩⟩, found, ?_, ⟨hmap, hcovers, hapart, rfl, rfl,
    mergeSort_eq_of_perm hperm (List.pairwise_map.2 hapart) hsome, hnodes, hcontains⟩,
    fun c => mem_leaves_iff, fun c => mem_reachedAll_iff⟩
  have hrange : Range.ofBounds 0 t.length = .ok ⟨0, t.length, Nat.zero_le _⟩ :=
    Range.ofBounds_natCast (a := 0) (Nat.zero_le _)
  unfold parser ofTree
  rw [hroot]
  simp only [herror, hfound, hbody, hrange]
  rfl

namespace Separated

/-- A script with a line separator between a name and a string, which a template, a regular
expression and a comment follow. -/
def text : Text := "x\u2028'a'\x60b\x60/c/ //é".toList

/-- A node with a delimiter of one byte on either side of one byte. -/
def delimited (kind mark : String) (startByte : Int) : Cst :=
  ⟨kind, startByte, startByte + 3, true, false, false,
    [⟨mark, startByte, startByte + 1, false, false, false, []⟩,
      ⟨"fragment", startByte + 1, startByte + 2, true, false, false, []⟩,
      ⟨mark, startByte + 2, startByte + 3, false, false, false, []⟩]⟩

/-- Its tree, of the text with a space in the place of the separator: the comment takes four bytes,
and an empty node stands behind the name. -/
def root : Cst :=
  ⟨"program", 0, 16, true, false, false,
    [⟨"identifier", 0, 1, true, false, false, []⟩, ⟨";", 1, 1, false, false, false, []⟩,
      delimited "string" "'" 2, delimited "template_string" "\x60" 5, delimited "regex" "/" 8,
      ⟨"comment", 12, 16, true, false, false, []⟩]⟩

/-- The grammar that gives this tree to everything. -/
def grammars : Grammars := fun _ _ _ => .ok root

/-- Its spans nest. -/
theorem spansNest : root.SpansNest := ⟨by decide, by decide, by decide⟩

/-- They lie on boundaries. -/
theorem onBoundaries : ∀ c ∈ root.walk, OnBoundaries text c := by
  have hall : ∀ c ∈ root.walk, Text.AtBoundary (cleaned text) c.startByte ∧
      Text.AtBoundary (cleaned text) c.stopByte := by
    decide +kernel
  exact fun c hc => ⟨(hall c hc).1, (hall c hc).2⟩

/-- Four tokens and one comment are made of it, and a node of each token. -/
theorem program_eq : ((parser grammars [] 0 text).toOption.map fun program =>
    (program.tokens.map (·.raw.toStr), program.comments.map (·.raw.toStr),
      (ScriptNode.walkAll program.body).map (·.kind))) =
    some (["x", "'a'", "\x60b\x60", "/c/"], ["//é"],
      ["identifier", "string", "template_string", "regex"]) := by
  decide +kernel

end Separated

/-- The string, the template and the regular expression are converted whole, as are the name and the
comment; the empty node becomes no token. -/
theorem parser_converts_separated :
    (Separated.grammars [] 0 (cleaned Separated.text) = .ok Separated.root ∧
      Separated.root.hasError = false ∧ Separated.root.SpansNest ∧
      ∀ c ∈ Separated.root.walk, OnBoundaries Separated.text c) ∧
      ∃ program found, parser Separated.grammars [] 0 Separated.text = .ok program ∧
        Converts Separated.text Separated.root program found ∧
        (program.tokens.map (·.raw.toStr), program.comments.map (·.raw.toStr),
          (ScriptNode.walkAll program.body).map (·.kind)) =
          (["x", "'a'", "\x60b\x60", "/c/"], ["//é"],
            ["identifier", "string", "template_string", "regex"]) := by
  have hroot : Separated.grammars [] 0 (cleaned Separated.text) = .ok Separated.root := rfl
  obtain ⟨program, found, hprogram, hconverts, -⟩ :=
    parser_converts hroot rfl Separated.spansNest Separated.onBoundaries
  have heq := Separated.program_eq
  rw [hprogram] at heq
  exact ⟨⟨hroot, rfl, Separated.spansNest, Separated.onBoundaries⟩, program, found, hprogram,
    hconverts, Option.some.inj heq⟩

/-! ## A root that is kept whole -/

namespace Whole

/-- A template around one name. -/
def text : Text := ['\x60', '$', '\x7b', 'a', '\x7d', '\x60']

/-- The substitution in it. -/
def substitution : Cst :=
  ⟨"template_substitution", 1, 5, true, false, false,
    [⟨"$\x7b", 1, 3, false, false, false, []⟩, ⟨"identifier", 3, 4, true, false, false, []⟩,
      ⟨"\x7d", 4, 5, false, false, false, []⟩]⟩

/-- The tree of the template, which is all that there is. -/
def root : Cst :=
  ⟨"template_string", 0, 6, true, false, false,
    [⟨"\x60", 0, 1, false, false, false, []⟩, substitution,
      ⟨"\x60", 5, 6, false, false, false, []⟩]⟩

/-- The grammar that gives this tree to everything. -/
def grammars : Grammars := fun _ _ _ => .ok root

/-- Its spans nest. -/
theorem spansNest : root.SpansNest := ⟨by decide, by decide, by decide⟩

/-- They lie on boundaries. -/
theorem onBoundaries : ∀ c ∈ root.walk, OnBoundaries text c := by
  have hall : ∀ c ∈ root.walk, Text.AtBoundary (cleaned text) c.startByte ∧
      Text.AtBoundary (cleaned text) c.stopByte := by
    decide +kernel
  exact fun c hc => ⟨(hall c hc).1, (hall c hc).2⟩

/-- The program has two nodes. -/
theorem length_walkAll : ((parser grammars [] 0 text).toOption.map fun program =>
    (ScriptNode.walkAll program.body).length) = some 2 := by
  decide +kernel

end Whole

/-- **A root is opened although it is kept whole**: below a template that is the whole tree there
are nodes, which are not come to when nothing below a node kept whole is. -/
theorem whole_root_opened :
    ¬ ∀ (grammars : Grammars) (language : Text) (asked : Nat) (t : Text) (root : Cst),
      grammars language asked (cleaned t) = .ok root → root.hasError = false → root.SpansNest →
      (∀ c ∈ root.walk, OnBoundaries t c) →
      ∃ program, parser grammars language asked t = .ok program ∧
        List.Forall₂ (Depicts t) (reached root).tail (ScriptNode.walkAll program.body) := by
  intro h
  obtain ⟨program, hprogram, hnodes⟩ := h Whole.grammars [] 0 Whole.text Whole.root rfl rfl
    Whole.spansNest Whole.onBoundaries
  have hnone : (reached Whole.root).tail = [] := rfl
  rw [hnone, List.forall₂_nil_left_iff] at hnodes
  have hlength := Whole.length_walkAll
  rw [hprogram] at hlength
  have htwo : (ScriptNode.walkAll program.body).length = 2 := Option.some.inj hlength
  rw [hnodes] at htwo
  cases htwo

end Script

end SingleFile
