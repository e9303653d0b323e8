import SingleFile.Proofs.Token.Walk

/-!
# Token stores — when the ends of a range are found

A lookup is anchored on the last token with the asked edge. The tokens of
a store are in order, so a token that is not empty and starts with a range
is the last to start there (`opensAt_of_mem`), and tokens after one that
ends with a range can end there too only when they are empty
(`closesAt_of_mem`).
-/

namespace SingleFile

/-- A token that is not empty starts with a range and lies in it. -/
def Token.OpensIn (t : Token) (r : Range) : Prop :=
  t.range.start = r.start ∧ r.start < t.range.stop ∧ t.range.stop ≤ r.stop

/-- A token ends with a range and lies in it. -/
def Token.ClosesIn (t : Token) (r : Range) : Prop :=
  t.range.stop = r.stop ∧ r.start ≤ t.range.start

namespace TokenStore

/-- The first token of a range is found, and starts where the range does. -/
def OpensAt (s : TokenStore) (r : Range) : Prop :=
  ∃ t, s.firstToken r 0 true = .ok (some t) ∧ t.range.start = r.start

/-- The last token of a range is found, and ends where the range does. -/
def ClosesAt (s : TokenStore) (r : Range) : Prop :=
  ∃ t, s.lastToken r 0 true = .ok (some t) ∧ t.range.stop = r.stop

variable {s : TokenStore} {r : Range} {t : Token} {edge : Edge} {offset : Nat}

/-- **Where a lookup is anchored**: at the last token with the edge, if there is one. -/
theorem exists_placeOf? (ht : t ∈ s.tokens) (hedge : t.edge edge = offset) :
    ∃ i u, s.placeOf? edge offset = some i ∧ s.tokens[i]? = some u ∧
      u.edge edge = offset ∧ (t = u ∨ t.Before u) := by
  rw [placeOf?_eq]
  cases hfind : s.tokens.reverse.findIdx? fun t => t.edge edge == offset with
  | none =>
    have hnone := List.findIdx?_eq_none_iff.1 hfind t (List.mem_reverse.2 ht)
    simp [hedge] at hnone
  | some k =>
    obtain ⟨hk, hat, hafter⟩ := List.findIdx?_eq_some_iff_getElem.1 hfind
    rw [List.length_reverse] at hk
    rw [List.getElem_reverse] at hat
    refine ⟨s.tokens.length - 1 - k, s.tokens[s.tokens.length - 1 - k], rfl,
      List.getElem?_eq_getElem _, eq_of_beq hat, ?_⟩
    obtain ⟨j, hj, rfl⟩ := List.getElem_of_mem ht
    rcases Nat.lt_trichotomy j (s.tokens.length - 1 - k) with hlt | rfl | hlt
    · exact .inr (List.pairwise_iff_getElem.1 s.ordered j _ hj (by omega) hlt)
    · exact .inl rfl
    · -- a later token has another edge
      have hnot := hafter (s.tokens.length - 1 - j) (by omega)
      rw [List.getElem_reverse] at hnot
      simp only [show s.tokens.length - 1 - (s.tokens.length - 1 - j) = j by omega, hedge,
        beq_self_eq_true] at hnot
      exact absurd trivial hnot

/-- A lookup that skips nothing is anchored at that place. -/
theorem anchor_of_placeOf? {i : Nat} (h : s.placeOf? edge offset = some i) :
    s.anchor edge offset 0 = .ok (i, 0) := by
  unfold anchor
  rw [h]
  rfl

/-- **A range that a token opens is found from its start.** -/
theorem opensAt_of_mem (ht : t ∈ s.tokens) (h : t.OpensIn r) : s.OpensAt r := by
  obtain ⟨hstart, hlt, hstop⟩ := h
  obtain ⟨i, u, hplace, hu, hedge, hor⟩ :=
    exists_placeOf? ht (show t.edge .start = r.start from hstart)
  have heq : t = u := by
    refine hor.resolve_right fun hbefore => ?_
    have hedge : u.range.start = r.start := hedge
    unfold Token.Before at hbefore
    omega
  subst heq
  refine ⟨t, ?_, hstart⟩
  rw [firstToken_of_anchor (anchor_of_placeOf? hplace), if_pos rfl, List.getElem?_drop,
    Nat.add_zero, hu, Option.filter_some, if_pos (decide_eq_true hstop)]

/-- **A range that a token closes is found from its end.** -/
theorem closesAt_of_mem (ht : t ∈ s.tokens) (h : t.ClosesIn r) : s.ClosesAt r := by
  obtain ⟨hstop, hstart⟩ := h
  obtain ⟨i, u, hplace, hu, hedge, hor⟩ :=
    exists_placeOf? ht (show t.edge .stop = r.stop from hstop)
  have hwithin : r.start ≤ u.range.start := by
    rcases hor with rfl | hbefore
    · exact hstart
    · have := t.range.start_le_stop
      unfold Token.Before at hbefore
      omega
  refine ⟨u, ?_, hedge⟩
  have hi : i < s.tokens.length := (List.getElem?_eq_some_iff.1 hu).1
  rw [lastToken_of_anchor (anchor_of_placeOf? hplace) hi, if_pos rfl,
    List.getElem?_reverse (by rw [List.length_take]; omega), List.length_take,
    show min (i + 1) s.tokens.length - 1 - 0 = i by omega,
    List.getElem?_take_of_lt (Nat.lt_succ_self i), hu, Option.filter_some,
    if_pos (decide_eq_true hwithin)]

end TokenStore

end SingleFile
