import Mathlib.Data.List.Forall2
import SingleFile.Proofs.Reference.OffsetMap
import SingleFile.Template.Expression

/-!
# Expressions — anchoring onto the source

What a script reader reports inside the code is anchored by the offset
map of the code. A span that is not empty always is; an empty one is
unless a reference that stands for nothing was left out just there
(`sourcePlace_ok_iff`). Tokens, comments and nodes are anchored one by
one, a node with everything below it.
-/

namespace SingleFile

/-! ## Results, one by one -/

/-- What follows a result is reached only when there is one. -/
theorem except_bind_eq_ok_iff {α β ε : Type} {x : Except ε α} {f : α → Except ε β} {b : β} :
    (x >>= f) = .ok b ↔ ∃ a, x = .ok a ∧ f a = .ok b := by
  cases x <;> simp [bind, Except.bind]

/-- A function of a result is there when the result is. -/
theorem except_map_eq_ok_iff {α β ε : Type} {x : Except ε α} {f : α → β} {b : β} :
    x.map f = .ok b ↔ ∃ a, x = .ok a ∧ f a = b := by
  cases x <;> simp [Except.map]

/-- And it fails as the result does. -/
theorem except_map_eq_error_iff {α β ε : Type} {x : Except ε α} {f : α → β} {e : ε} :
    x.map f = .error e ↔ x = .error e := by
  cases x <;> simp [Except.map]

/-- A map that may fail gives a list when it gives each of its items. -/
theorem mapM_eq_ok_iff {α β ε : Type} {f : α → Except ε β} {xs : List α} {ys : List β} :
    xs.mapM f = .ok ys ↔ List.Forall₂ (fun x y => f x = .ok y) xs ys := by
  induction xs generalizing ys with
  | nil =>
    rw [List.mapM_nil, List.forall₂_nil_left_iff]
    exact ⟨fun h => by cases h; rfl, fun h => by rw [h]; rfl⟩
  | cons x xs ih =>
    rw [List.mapM_cons]
    cases hx : f x with
    | error e => simp [bind, Except.bind, List.forall₂_cons_left_iff, hx]
    | ok y =>
      cases hxs : xs.mapM f with
      | error e =>
        simp [bind, Except.bind, List.forall₂_cons_left_iff, hx, ← ih, hxs]
      | ok zs =>
        simp [bind, Except.bind, pure, Except.pure, List.forall₂_cons_left_iff, hx, ← ih, hxs,
          eq_comm]

/-- It gives a list at all when no item fails. -/
theorem exists_mapM_eq_ok_iff {α β ε : Type} {f : α → Except ε β} {xs : List α} :
    (∃ ys, xs.mapM f = .ok ys) ↔ ∀ x ∈ xs, ∃ y, f x = .ok y := by
  simp only [mapM_eq_ok_iff]
  induction xs with
  | nil => simp
  | cons x xs ih =>
    simp only [List.forall₂_cons_left_iff, List.forall_mem_cons, ← ih]
    constructor
    · rintro ⟨-, y, ys, hy, hys, -⟩
      exact ⟨⟨y, hy⟩, ys, hys⟩
    · rintro ⟨⟨y, hy⟩, ys, hys⟩
      exact ⟨y :: ys, y, ys, hy, hys, rfl⟩

/-- What is the same of each item and its result is the same of both lists. -/
theorem map_eq_of_mapM {α β γ ε : Type} {f : α → Except ε β} {g : β → γ} {h : α → γ}
    (hf : ∀ x y, f x = .ok y → g y = h x) {xs : List α} {ys : List β} (hm : xs.mapM f = .ok ys) :
    ys.map g = xs.map h := by
  have hall := mapM_eq_ok_iff.1 hm
  clear hm
  induction hall with
  | nil => rfl
  | cons hxy _ ih => rw [List.map_cons, List.map_cons, hf _ _ hxy, ih]

/-- What holds of every result of a function holds of every item of the list. -/
theorem forall_mem_of_mapM {α β ε : Type} {f : α → Except ε β} {p : β → Prop}
    (hf : ∀ x y, f x = .ok y → p y) {xs : List α} {ys : List β} (hm : xs.mapM f = .ok ys) :
    ∀ y ∈ ys, p y := by
  have hall := mapM_eq_ok_iff.1 hm
  clear hm
  induction hall with
  | nil => exact List.forall_mem_nil _
  | cons hxy _ ih => exact List.forall_mem_cons.2 ⟨hf _ _ hxy, ih⟩

namespace LineIndex

/-- Offsets inside a text have a position. -/
theorem position_ofText {t : Text} {o : Nat} (h : o ≤ t.length) :
    (ofText t).position o = .ok ((ofText t).positionAt o) := by
  have hsize : (ofText t).size = t.length := rfl
  unfold position position?
  rw [if_pos ⟨by omega, by rw [hsize]; omega⟩]
  rfl

/-- Offsets inside a text have a location. -/
theorem location_ofText {t : Text} {a b : Nat} (ha : a ≤ t.length) (hb : b ≤ t.length) :
    (ofText t).location a b = .ok ⟨(ofText t).positionAt a, (ofText t).positionAt b⟩ := by
  simp only [location, position_ofText ha, position_ofText hb, bind, Except.bind, pure, Except.pure]

/-- And only such offsets do. -/
theorem location_ofText_eq_ok_iff {t : Text} {a b : Nat} {l : Location} :
    (ofText t).location a b = .ok l ↔
      a ≤ t.length ∧ b ≤ t.length ∧ l = ⟨(ofText t).positionAt a, (ofText t).positionAt b⟩ := by
  constructor
  · intro h
    obtain ⟨p, hp, h⟩ := except_bind_eq_ok_iff.1 h
    obtain ⟨q, hq, h⟩ := except_bind_eq_ok_iff.1 h
    have hinside : ∀ {o : Nat} {r : Position}, (ofText t).position o = .ok r → o ≤ t.length := by
      intro o r hr
      unfold position position? at hr
      split at hr
      · rename_i heq
        rw [Option.ite_none_right_eq_some] at heq
        exact Int.ofNat_le.1 heq.1.2
      · cases hr
    have ha := hinside hp
    have hb := hinside hq
    have hl : (ofText t).location a b = .ok l :=
      except_bind_eq_ok_iff.2 ⟨p, hp, except_bind_eq_ok_iff.2 ⟨q, hq, h⟩⟩
    rw [location_ofText ha hb, Except.ok.injEq] at hl
    exact ⟨ha, hb, hl.symm⟩
  · rintro ⟨ha, hb, rfl⟩
    exact location_ofText ha hb

end LineIndex

namespace Range

/-- Bounds that are in order make a range. -/
theorem ofBounds_natCast {a b : Nat} (h : a ≤ b) : ofBounds a b = .ok ⟨a, b, h⟩ := by
  unfold ofBounds
  rw [(ofBounds?_eq_some_iff (r := ⟨a, b, h⟩)).2 ⟨rfl, rfl⟩]

/-- And only such bounds do. -/
theorem ofBounds_eq_ok_iff {start stop : Int} {r : Range} :
    ofBounds start stop = .ok r ↔ start = r.start ∧ stop = r.stop := by
  unfold ofBounds
  rw [← ofBounds?_eq_some_iff]
  cases ofBounds? start stop <;> simp

end Range

namespace Template

namespace ExpressionReader

variable {r : ExpressionReader} {s : Nat} {d : Decoded} {span : Range} {p : Place}

/-- **Where a span is anchored.** -/
theorem range_of_sourcePlace (h : r.sourcePlace s d span = .ok p) :
    p.range.start = s + d.rawStart (span.start - s) ∧
      p.range.stop = s + d.rawStop (span.stop - s) := by
  unfold sourcePlace sourceRange at h
  obtain ⟨range, hr, h⟩ := except_bind_eq_ok_iff.1 h
  obtain ⟨location, -, h⟩ := except_bind_eq_ok_iff.1 h
  cases h
  split at hr
  · obtain ⟨h1, h2⟩ := Range.ofBounds_eq_ok_iff.1 hr
    dsimp only
    omega
  · cases hr

/-- A token is anchored where its span is, and keeps its kind and meaning. -/
theorem anchorToken_eq_ok_iff {t t' : Token} :
    r.anchorToken s d t = .ok t' ↔ ∃ p, r.sourcePlace s d t.range = .ok p ∧
      t' = ⟨t.kind, t.value, p.range.of r.text, p.range, p.location⟩ := by
  unfold anchorToken
  cases r.sourcePlace s d t.range <;> simp [bind, Except.bind, pure, Except.pure, eq_comm]

/-- So is a comment. -/
theorem anchorComment_eq_ok_iff {t : Token} {c : Comment} :
    r.anchorComment s d t = .ok c ↔ ∃ p, r.sourcePlace s d t.range = .ok p ∧
      c = ⟨p, t.kind, t.value⟩ := by
  unfold anchorComment
  cases r.sourcePlace s d t.range <;> simp [bind, Except.bind, pure, Except.pure, eq_comm]

mutual
/-- **A node is anchored when everything in it is.** -/
theorem exists_anchorNode_iff (r : ExpressionReader) (s : Nat) (d : Decoded) :
    ∀ node : ScriptNode, (∃ node', r.anchorNode s d node = .ok node') ↔
      ∀ x ∈ node.walk, ∃ p, r.sourcePlace s d x.range = .ok p
  | ⟨kind, range, location, raw, children⟩ => by
    have ih := exists_anchorNodes_iff r s d children
    simp only [ScriptNode.walk, List.forall_mem_cons, ← ih, anchorNode]
    cases r.sourcePlace s d range <;> cases r.anchorNodes s d children <;>
      simp [bind, Except.bind, pure, Except.pure]

/-- So are several. -/
theorem exists_anchorNodes_iff (r : ExpressionReader) (s : Nat) (d : Decoded) :
    ∀ nodes : List ScriptNode, (∃ nodes', r.anchorNodes s d nodes = .ok nodes') ↔
      ∀ x ∈ ScriptNode.walkAll nodes, ∃ p, r.sourcePlace s d x.range = .ok p
  | [] => by simp [anchorNodes, ScriptNode.walkAll]
  | node :: nodes => by
    have ih := exists_anchorNode_iff r s d node
    have ihs := exists_anchorNodes_iff r s d nodes
    simp only [ScriptNode.walkAll, List.forall_mem_append, ← ih, ← ihs, anchorNodes]
    cases r.anchorNode s d node <;> cases r.anchorNodes s d nodes <;>
      simp [bind, Except.bind, pure, Except.pure]
end

/-! ## Inside the code -/

variable {text : Text} {parser : ScriptParser} {reporter : String} {start stop : Nat}

/-- The code between two offsets inside the source, decoded. -/
theorem length_code (hstop : stop ≤ text.length) (h : start ≤ stop) :
    (text.slice start stop).length = stop - start := Text.length_slice hstop h

/-- **When a span inside the code is anchored**: its ends keep their order in
the source. -/
theorem sourcePlace_ok_iff (hstop : stop ≤ text.length) (h : start ≤ stop)
    (hd : d = .ofText (text.slice start stop)) (hs : start ≤ span.start)
    (hsize : span.stop ≤ start + d.chars.length) :
    (∃ p, (ofText text parser reporter).sourcePlace start d span = .ok p) ↔
      (span.start = span.stop → ¬ d.Omits (span.start - start)) := by
  subst hd
  have hspan := span.start_le_stop
  -- only an empty span can lose the order of its ends, and then by what was left out there
  have hbound := Decoded.rawStop_le (t := text.slice start stop) (j := span.stop - start) (by omega)
  rw [length_code hstop h] at hbound
  have hiff : (span.start = span.stop →
      ¬ (Decoded.ofText (text.slice start stop)).Omits (span.start - start)) ↔
      (Decoded.ofText (text.slice start stop)).rawStart (span.start - start) ≤
        (Decoded.ofText (text.slice start stop)).rawStop (span.stop - start) := by
    rcases Nat.lt_or_ge span.start span.stop with hlt | hge
    · have := Decoded.rawStart_lt_rawStop (t := text.slice start stop)
        (i := span.start - start) (j := span.stop - start) (by omega) (by omega)
      exact iff_of_true (fun h => by omega) (by omega)
    · rw [show span.stop = span.start by omega]
      simp only [Decoded.Omits, forall_const, Nat.not_lt]
  rw [hiff]
  unfold sourcePlace sourceRange
  rw [if_pos hs]
  constructor
  · rintro ⟨p, hp⟩
    obtain ⟨range, hr, -⟩ := except_bind_eq_ok_iff.1 hp
    obtain ⟨h1, h2⟩ := Range.ofBounds_eq_ok_iff.1 hr
    have := range.start_le_stop
    omega
  · intro hle
    rw [Range.ofBounds_natCast (Nat.add_le_add_left hle start)]
    exact ⟨_, except_bind_eq_ok_iff.2 ⟨_, rfl, except_bind_eq_ok_iff.2
      ⟨_, LineIndex.location_ofText (by dsimp only; omega) (by dsimp only; omega), rfl⟩⟩⟩

end ExpressionReader

end Template

end SingleFile
