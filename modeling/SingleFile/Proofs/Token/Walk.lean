import SingleFile.Token.Store
import Mathlib.Data.List.Induction
import Mathlib.Data.List.TakeWhile

/-!
# Token stores — indexes and walks against the list of tokens

The indexes of a store are those of its tokens, whatever was done to it and
whatever it refused. So the place found for an offset is that of the last
token with the edge, as a search of the list from its end finds it
(`placeOf?_eq`). A walk from place to place meets what is left of the list
behind the place, or before it read from the end, when the tokens from the
first one beyond on are cut off and the comments are left out (`walk_up`,
`walk_down`): it never runs out of places to go to before the list ends.
-/

namespace SingleFile

/-- **An index of tokens finds the last one with the edge.** -/
theorem EdgeIndex.get?_ofTokens (edge : Edge) (ts : List Token) (offset : Nat) :
    (ofTokens edge ts).get? offset =
      (ts.reverse.findIdx? fun t => t.edge edge == offset).map (ts.length - 1 - ·) := by
  induction ts using List.reverseRecOn with
  | nil => rfl
  | append_singleton ts t ih =>
    rw [ofTokens_concat, List.reverse_append, List.reverse_singleton, List.singleton_append,
      List.findIdx?_cons]
    by_cases h : t.edge edge = offset
    · simp [h]
    · rw [get?_put_of_ne (Ne.symm h), ih, if_neg (by simpa using h), Option.map_map]
      congr 1
      funext k
      simp only [Function.comp_apply, List.length_append, List.length_singleton]
      omega

namespace TokenStore

variable {s : TokenStore} {edge : Edge} {offset : Nat} {comments : Bool}
  {beyond : Token → Bool}

/-- **The indexes of a store are consistent with its tokens**: the place found for an offset is that
of the last token that has the edge there. -/
theorem placeOf?_eq : s.placeOf? edge offset =
    (s.tokens.reverse.findIdx? fun t => t.edge edge == offset).map (s.size - 1 - ·) := by
  cases edge with
  | start => exact (congrArg (·.get? offset) s.starts_eq).trans (EdgeIndex.get?_ofTokens ..)
  | stop => exact (congrArg (·.get? offset) s.stops_eq).trans (EdgeIndex.get?_ofTokens ..)

/-- What a walk along a list of tokens meets: those before the first beyond, without comments unless
they are counted. -/
def met (comments : Bool) (beyond : Token → Bool) (ts : List Token) : List Token :=
  (ts.takeWhile fun t => !beyond t).filter fun t => comments || !t.kind.isComment

/-- A walk that meets nothing beyond goes on to the end. -/
theorem met_of_forall {ts : List Token} (h : ∀ t ∈ ts, beyond t = false) :
    met comments beyond ts = ts.filter fun t => comments || !t.kind.isComment := by
  unfold met
  rw [List.takeWhile_eq_self_iff.2 fun t ht => by simp [h t ht]]

/-- **One step of a walk**: the token at the place is the first of a list, and the walk goes on in
the rest of it. -/
theorem walk_step {step place : Int} {left skip : Nat} {t : Token} {ts : List Token}
    (hplace : 0 ≤ place) (ht : s.tokens[place.toNat]? = some t)
    (hrest : ∀ skip, s.walk step comments beyond left (place + step) skip =
      (met comments beyond ts)[skip]?) :
    s.walk step comments beyond (left + 1) place skip =
      (met comments beyond (t :: ts))[skip]? := by
  rw [walk, if_neg (Int.not_lt.2 hplace), ht]
  unfold met at hrest ⊢
  dsimp only
  by_cases hbeyond : beyond t
  · simp [hbeyond]
  rw [if_neg hbeyond, List.takeWhile_cons_of_pos (by simpa using hbeyond)]
  by_cases hpassed : !comments && t.kind.isComment
  · rw [if_pos hpassed, List.filter_cons_of_neg (by simpa using hpassed)]
    exact hrest skip
  · rw [if_neg hpassed, List.filter_cons_of_pos (by simpa [or_iff_not_imp_left] using hpassed)]
    cases skip with
    | zero => rfl
    | succ skip => exact hrest skip

/-- **A walk to the end** goes through the tokens from its place on. -/
theorem walk_up {left place skip : Nat} (h : s.size ≤ place + left) :
    s.walk 1 comments beyond left place skip =
      (met comments beyond (s.tokens.drop place))[skip]? := by
  induction left generalizing place skip with
  | zero =>
    rw [List.drop_eq_nil_of_le (show s.tokens.length ≤ place from h)]
    rfl
  | succ left ih =>
    rcases Nat.lt_or_ge place s.tokens.length with hlt | hge
    · have hrest (skip : Nat) := @ih (place + 1) skip (by omega)
      rw [List.drop_eq_getElem_cons hlt]
      exact walk_step (Int.natCast_nonneg place) (List.getElem?_eq_getElem hlt) hrest
    · rw [List.drop_eq_nil_of_le hge, walk, if_neg (by omega), Int.toNat_natCast,
        List.getElem?_eq_none hge]
      rfl

/-- **A walk to the start** goes through the tokens before a place, from the last one on. -/
theorem walk_down {left place skip : Nat} (hleft : place ≤ left) (hplace : place ≤ s.size) :
    s.walk (-1) comments beyond left (place - 1) skip =
      (met comments beyond (s.tokens.take place).reverse)[skip]? := by
  induction left generalizing place skip with
  | zero =>
    obtain rfl : place = 0 := Nat.le_zero.1 hleft
    rfl
  | succ left ih =>
    -- before the first place there is none, and the walk is over
    cases place with
    | zero => rfl
    | succ place =>
      have hlt : place < s.tokens.length := hplace
      rw [List.take_succ_eq_append_getElem hlt, List.reverse_append, List.reverse_singleton,
        List.singleton_append, show ((place + 1 : Nat) : Int) - 1 = place by omega]
      exact walk_step (Int.natCast_nonneg place) (List.getElem?_eq_getElem hlt)
        fun skip => ih (by omega) (Nat.le_of_lt hlt)

/-! ## Lookups along the list -/

section Lookups

variable {r : Range} {skip : Int} {place n : Nat}

/-- The first token of a range, found along the tokens from the anchor on. -/
theorem firstToken_of_anchor (h : s.anchor .start r.start skip = .ok (place, n)) :
    s.firstToken r skip comments = .ok
      (if comments then (s.tokens.drop place)[n]?.filter fun t => t.range.stop ≤ r.stop
      else (met false (fun t => r.stop < t.range.stop) (s.tokens.drop place))[n]?) := by
  unfold firstToken
  rw [h, List.getElem?_drop, ← walk_up (Nat.le_add_left s.size place)]
  cases comments <;> rfl

/-- The last token of a range, found along the tokens up to the anchor, read from it backwards. -/
theorem lastToken_of_anchor (h : s.anchor .stop r.stop skip = .ok (place, n))
    (hplace : place < s.size) :
    s.lastToken r skip comments = .ok
      (if comments then
        (s.tokens.take (place + 1)).reverse[n]?.filter fun t => r.start ≤ t.range.start
      else
        (met false (fun t => t.range.start < r.start) (s.tokens.take (place + 1)).reverse)[n]?) := by
  have hlength : (s.tokens.take (place + 1)).length = place + 1 := List.length_take_of_le hplace
  have hwalk := @walk_down s false (fun t => t.range.start < r.start) s.size (place + 1) n hplace
    hplace
  unfold lastToken
  rw [h, ← hwalk]
  cases comments with
  | false => simp [bind, Except.bind, pure, Except.pure]
  | true =>
    change (if n ≤ place then _ else _) = Except.ok (Option.filter _ _)
    split
    · rw [List.getElem?_reverse (by omega), hlength, Nat.add_sub_cancel,
        List.getElem?_take_of_lt (by omega)]
      rfl
    · rw [List.getElem?_eq_none (by rw [List.length_reverse]; omega)]
      rfl

/-- The token before a range, found along the tokens before the anchor, read from it backwards. -/
theorem tokenBefore_of_anchor (h : s.anchor .start r.start skip = .ok (place, n))
    (hplace : place < s.size) :
    s.tokenBefore r skip comments =
      .ok (met comments (fun _ => false) (s.tokens.take place).reverse)[n]? := by
  unfold tokenBefore
  rw [h, ← walk_down (Nat.le_of_lt hplace) (Nat.le_of_lt hplace)]
  rfl

/-- The token after a range, found along the tokens behind the anchor. -/
theorem tokenAfter_of_anchor (h : s.anchor .stop r.stop skip = .ok (place, n)) :
    s.tokenAfter r skip comments =
      .ok (met comments (fun _ => false) (s.tokens.drop (place + 1)))[n]? := by
  unfold tokenAfter
  rw [h, ← walk_up (Nat.le_add_left s.size (place + 1))]
  rfl

end Lookups

end TokenStore

end SingleFile
