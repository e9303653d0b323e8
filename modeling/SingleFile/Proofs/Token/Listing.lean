import SingleFile.Proofs.Ledger
import SingleFile.Proofs.Token.Lookup

/-!
# Token stores — a store against its listing

A listing is what a store amounts to: the tokens it has accepted, and
whether it was closed. How it grows is said without the store
(`Listing.Step`), and so is what is found in it: the tokens inside,
before and after a range are picked out of the whole listing, one by one.

A store follows its listing through any run of operations, also past the
ones it refuses (`run_follows`). For lookups this needs tokens that are
not empty. Then the token a lookup is anchored on splits the listing
(`exists_split`): what precedes it ends at its start or earlier, what
follows starts at its end or later, so that what a walk meets on its way is
what a filter leaves (`met_eq_filter`). The indexes keep to the listing in
any case (`placeOf?_run`).
-/

namespace SingleFile

/-- Something that is done to a store. -/
inductive TokenStore.Operation
  | append (t : Token)
  | extend (ts : List Token)
  | close
  deriving DecidableEq, Repr

/-- The tokens that an operation brings. -/
def TokenStore.Operation.tokens : TokenStore.Operation → List Token
  | .append t => [t]
  | .extend ts => ts
  | .close => []

/-- The tokens a store has accepted, in order, and whether it was closed. -/
structure Listing where
  tokens : List Token
  isClosed : Bool
  deriving DecidableEq, Repr

namespace Listing

open TokenStore (Operation)

/-! ## How a listing grows -/

/-- The listing with more tokens at its end. -/
def add (l : Listing) (ts : List Token) : Listing := { l with tokens := l.tokens ++ ts }

/-- A listing that is open takes a token that starts at or after the end of the last one. -/
def Takes (l : Listing) (t : Token) : Prop :=
  l.isClosed = false ∧
    ∀ last, l.tokens.getLast? = some last → last.range.stop ≤ t.range.start

/-- It takes each of some tokens at its turn. -/
def TakesAll (l : Listing) (ts : List Token) : Prop :=
  ∀ taken t rest, ts = taken ++ t :: rest → (l.add taken).Takes t

/-- **One operation on a listing**, with whether it is accepted. -/
inductive Step (l : Listing) : Operation → Bool → Listing → Prop
  | append {t : Token} (h : l.Takes t) : Step l (.append t) true (l.add [t])
  | appendRefused {t : Token} (h : ¬ l.Takes t) : Step l (.append t) false l
  | extend {ts : List Token} (h : l.TakesAll ts) : Step l (.extend ts) true (l.add ts)
  | extendRefused {taken : List Token} {t : Token} {rest : List Token} (h : l.TakesAll taken)
      (ht : ¬ (l.add taken).Takes t) :
      Step l (.extend (taken ++ t :: rest)) false (l.add taken)
  | close : Step l .close true { l with isClosed := true }

/-- Operations one after another, with which of them are accepted. -/
inductive Run : Listing → List Operation → List Bool → Listing → Prop
  | nil {l : Listing} : Run l [] [] l
  | cons {l l' l'' : Listing} {op : Operation} {ops : List Operation} {accepted : Bool}
      {rest : List Bool} (h : Step l op accepted l') (hrest : Run l' ops rest l'') :
      Run l (op :: ops) (accepted :: rest) l''

/-- No tokens are always taken. -/
theorem takesAll_nil (l : Listing) : l.TakesAll [] := by
  intro taken t rest h
  cases taken <;> cases h

/-- Tokens are taken when the first is, and then the others. -/
theorem TakesAll.cons {l : Listing} {t : Token} {ts : List Token} (h : l.Takes t)
    (hts : (l.add [t]).TakesAll ts) : l.TakesAll (t :: ts) := by
  intro taken u rest heq
  cases taken with
  | nil =>
    obtain ⟨rfl, -⟩ := List.cons.inj heq
    simpa [add] using h
  | cons v taken =>
    obtain ⟨rfl, hrest⟩ := List.cons.inj heq
    simpa [add] using hts taken u rest hrest

/-! ## What is found in a listing -/

/-- A token that is looked up: any when comments are included, else one that is no comment. -/
def Shown (comments : Bool) (t : Token) : Prop :=
  comments = true ∨ t.kind ≠ .htmlComment ∧ t.kind ≠ .line ∧ t.kind ≠ .block

instance (comments : Bool) : DecidablePred (Shown comments) := fun _ =>
  inferInstanceAs (Decidable (_ ∨ _))

/-- The tokens that lie in a range. -/
def inside (l : Listing) (r : Range) (comments : Bool) : List Token :=
  l.tokens.filter fun t =>
    r.start ≤ t.range.start ∧ t.range.stop ≤ r.stop ∧ Shown comments t

/-- The tokens that end before a range starts. -/
def before (l : Listing) (r : Range) (comments : Bool) : List Token :=
  l.tokens.filter fun t => t.range.stop ≤ r.start ∧ Shown comments t

/-- The tokens that start after a range ends. -/
def after (l : Listing) (r : Range) (comments : Bool) : List Token :=
  l.tokens.filter fun t => r.stop ≤ t.range.start ∧ Shown comments t

/-- The offsets at which tokens start, or those at which they end. -/
def edges (l : Listing) : Edge → List Nat
  | .start => l.tokens.map (·.range.start)
  | .stop => l.tokens.map (·.range.stop)

/-- The token at a place among some, if any token of the listing has the asked edge. -/
def pick (l : Listing) (edge : Edge) (offset : Nat) (choice : List Token) (skip : Nat) :
    Except Breach (Option Token) :=
  if offset ∈ l.edges edge then .ok choice[skip]? else .error (.noTokenAt edge offset)

/-- **The lookups of a store, read off a listing.** -/
structure Answers (l : Listing) (s : TokenStore) (r : Range) (skip : Nat)
    (comments : Bool) : Prop where
  first : s.firstToken r skip comments = l.pick .start r.start (l.inside r comments) skip
  last : s.lastToken r skip comments = l.pick .stop r.stop (l.inside r comments).reverse skip
  before : s.tokenBefore r skip comments = l.pick .start r.start (l.before r comments).reverse skip
  after : s.tokenAfter r skip comments = l.pick .stop r.stop (l.after r comments) skip

end Listing

/-! ## Filters on lists in order -/

section Prefix

variable {α : Type} {p : α → Bool} {xs : List α}

/-- Where only a prefix of a list passes a test, the rest of a list that starts with one that
fails passes nowhere. -/
theorem filter_eq_nil_of_head {x : α} (h : (x :: xs).Pairwise fun a b => p b → p a)
    (hx : ¬ p x) : (x :: xs).filter p = [] := by
  refine List.filter_eq_nil_iff.2 fun a ha hpa => ?_
  rcases List.mem_cons.1 ha with rfl | hmem
  · exact hx hpa
  · exact hx ((List.pairwise_cons.1 h).1 a hmem hpa)

/-- Where only a prefix of a list passes a test, the longest one that does is all there is. -/
theorem takeWhile_eq_filter (h : xs.Pairwise fun a b => p b → p a) :
    xs.takeWhile p = xs.filter p := by
  induction xs with
  | nil => rfl
  | cons x xs ih =>
    by_cases hx : p x
    · rw [List.takeWhile_cons_of_pos hx, List.filter_cons_of_pos hx,
        ih (List.pairwise_cons.1 h).2]
    · rw [List.takeWhile_cons_of_neg hx, filter_eq_nil_of_head h hx]

/-- There a place of the list is the same place among those that pass. -/
theorem getElem?_filter_of_prefix (h : xs.Pairwise fun a b => p b → p a) (k : Nat) :
    xs[k]?.filter p = (xs.filter p)[k]? := by
  induction xs generalizing k with
  | nil => rfl
  | cons x xs ih =>
    by_cases hx : p x
    · rw [List.filter_cons_of_pos hx]
      cases k with
      | zero => simp [hx]
      | succ k => simpa using ih (List.pairwise_cons.1 h).2 k
    · rw [filter_eq_nil_of_head h hx, List.getElem?_nil, Option.filter_eq_none_iff]
      intro a ha hpa
      have hmem : a ∈ (x :: xs).filter p := List.mem_filter.2 ⟨List.mem_of_getElem? ha, hpa⟩
      rw [filter_eq_nil_of_head h hx] at hmem
      cases hmem

end Prefix

section Sides

variable {α : Type} {p q : α → Bool} {zs xs ys : List α}

/-- What passes a test on one side only is what passes it there. -/
theorem filter_eq_of_left (h : zs = xs ++ ys) (hleft : ∀ x ∈ xs, p x = q x)
    (hright : ∀ y ∈ ys, p y = false) : zs.filter p = xs.filter q := by
  have hnone : ys.filter p = [] := by simpa using hright
  rw [h, List.filter_append, hnone, List.append_nil, List.filter_congr hleft]

/-- And so it is on the other side. -/
theorem filter_eq_of_right (h : zs = xs ++ ys) (hleft : ∀ x ∈ xs, p x = false)
    (hright : ∀ y ∈ ys, p y = q y) : zs.filter p = ys.filter q := by
  have hnone : xs.filter p = [] := by simpa using hleft
  rw [h, List.filter_append, hnone, List.nil_append, List.filter_congr hright]

end Sides

namespace TokenStore

open Listing (TakesAll Takes)

/-! ## Runs of a store -/

/-- An operation on a store, and why it was refused. -/
def step (s : TokenStore) : Operation → TokenStore × Option Breach
  | .append t =>
    match s.push t with
    | .ok s' => (s', none)
    | .error b => (s, some b)
  | .extend ts => s.pushAll ts
  | .close => (s.close, none)

/-- Operations on a store one after another. -/
def run (s : TokenStore) : List Operation → TokenStore × List (Option Breach)
  | [] => (s, [])
  | op :: ops =>
    let (s', refused) := s.step op
    let (s'', rest) := s'.run ops
    (s'', refused :: rest)

/-- What a store amounts to. -/
def listing (s : TokenStore) : Listing := ⟨s.tokens, s.isSealed⟩

variable {s s' : TokenStore} {t : Token}

/-- A store that accepts a token has a listing that takes it. -/
theorem takes_of_push (h : s.push t = .ok s') :
    s.listing.Takes t ∧ s'.listing = s.listing.add [t] := by
  obtain ⟨hopen, hlast, htokens, hopen'⟩ := push_eq_ok_iff.1 h
  refine ⟨⟨hopen, hlast⟩, ?_⟩
  unfold listing Listing.add
  rw [htokens, hopen', hopen]

/-- A store that refuses a token has a listing that does not take it. -/
theorem not_takes_of_push {b : Breach} (h : s.push t = .error b) : ¬ s.listing.Takes t := by
  rintro ⟨hopen, hlast⟩
  have hpush : s.push t = .ok (s.concat t hlast) := push_eq_ok_iff.2 ⟨hopen, hlast, rfl, hopen⟩
  rw [h] at hpush
  cases hpush

/-- **What a store keeps of a list of tokens.** Either the listing takes them all, or they are
refused from the first that it does not take. -/
theorem pushAll_cases (s : TokenStore) (ts : List Token) :
    (s.listing.TakesAll ts ∧ (s.pushAll ts).1.listing = s.listing.add ts ∧
        (s.pushAll ts).2 = none) ∨
      ∃ taken t rest, ts = taken ++ t :: rest ∧ s.listing.TakesAll taken ∧
        ¬ (s.listing.add taken).Takes t ∧ (s.pushAll ts).1.listing = s.listing.add taken ∧
        (s.pushAll ts).2.isSome := by
  induction ts generalizing s with
  | nil => exact .inl ⟨s.listing.takesAll_nil, by simp [pushAll, Listing.add], rfl⟩
  | cons t ts ih =>
    cases h : s.push t with
    | error b =>
      refine .inr ⟨[], t, ts, rfl, s.listing.takesAll_nil, ?_, ?_, ?_⟩
      · simpa [Listing.add] using not_takes_of_push h
      · simp [pushAll, h, Listing.add]
      · simp [pushAll, h]
    | ok s' =>
      obtain ⟨htakes, hlisting⟩ := takes_of_push h
      have hadd (us : List Token) : s'.listing.add us = s.listing.add (t :: us) := by
        simp [hlisting, Listing.add]
      have hpush : s.pushAll (t :: ts) = s'.pushAll ts := by simp [pushAll, h]
      rw [hpush]
      rcases ih s' with ⟨hall, hfst, hsnd⟩ | ⟨taken, u, rest, rfl, hall, hu, hfst, hsnd⟩
      · exact .inl ⟨.cons htakes (hlisting ▸ hall), hfst.trans (hadd ts), hsnd⟩
      · exact .inr ⟨t :: taken, u, rest, rfl, .cons htakes (hlisting ▸ hall), hadd taken ▸ hu,
          hfst.trans (hadd taken), hsnd⟩

/-- One operation on a store is one on its listing. -/
theorem step_follows (s : TokenStore) (op : Operation) :
    Listing.Step s.listing op (s.step op).2.isNone (s.step op).1.listing := by
  cases op with
  | append t =>
    cases h : s.push t with
    | ok s' =>
      obtain ⟨htakes, hlisting⟩ := takes_of_push h
      simpa [step, h, hlisting] using Listing.Step.append htakes
    | error b => simpa [step, h] using Listing.Step.appendRefused (not_takes_of_push h)
  | extend ts =>
    rcases s.pushAll_cases ts with ⟨hall, hfst, hsnd⟩ | ⟨taken, t, rest, rfl, hall, ht, hfst, hsnd⟩
    · simpa [step, hfst, hsnd] using Listing.Step.extend hall
    · rw [Option.isSome_iff_exists] at hsnd
      obtain ⟨b, hb⟩ := hsnd
      have hrefused : Listing.Step s.listing (.extend (taken ++ t :: rest)) false
          (s.listing.add taken) := .extendRefused hall ht
      simpa [step, hfst, hb] using hrefused
  | close => exact .close

/-- **A store follows its listing**, through the operations it refuses as well. -/
theorem run_follows (s : TokenStore) (ops : List Operation) :
    Listing.Run s.listing ops ((s.run ops).2.map Option.isNone) (s.run ops).1.listing := by
  induction ops generalizing s with
  | nil => exact .nil
  | cons op ops ih => exact .cons (s.step_follows op) (ih (s.step op).1)

/-- What a listing holds in the end it held before, or some operation brought it. -/
theorem mem_of_listing_run {l l' : Listing} {ops : List Operation} {accepted : List Bool}
    (h : Listing.Run l ops accepted l') (ht : t ∈ l'.tokens) :
    t ∈ l.tokens ∨ ∃ op ∈ ops, t ∈ op.tokens := by
  induction h with
  | nil => exact .inl ht
  | cons hstep _ ih =>
    rcases ih ht with hmem | ⟨op, hop, hmem⟩
    · cases hstep with
      | append _ => exact (List.mem_append.1 hmem).imp_right fun h => ⟨_, List.mem_cons_self, h⟩
      | appendRefused _ => exact .inl hmem
      | extend _ => exact (List.mem_append.1 hmem).imp_right fun h => ⟨_, List.mem_cons_self, h⟩
      | extendRefused _ _ =>
        exact (List.mem_append.1 hmem).imp_right fun h =>
          ⟨_, List.mem_cons_self, List.mem_append_left _ h⟩
      | close => exact .inl hmem
    · exact .inr ⟨op, List.mem_cons_of_mem _ hop, hmem⟩

/-! ## Lookups -/

section Lookups

variable {edge : Edge} {offset skip : Nat} {u : Token} {xs ys : List Token} {r : Range}

/-- No place is found for an offset where no token has the edge. -/
theorem anchor_of_not_exists (h : ¬ ∃ t ∈ s.tokens, t.edge edge = offset) :
    s.anchor edge offset skip = .error (.noTokenAt edge offset) := by
  have hplace : s.placeOf? edge offset = none := by
    rw [placeOf?_eq, Option.map_eq_none_iff, List.findIdx?_eq_none_iff]
    intro t ht
    rw [beq_eq_false_iff_ne]
    exact fun hedge => h ⟨t, List.mem_reverse.1 ht, hedge⟩
  unfold anchor
  rw [hplace]

/-- **The token that a lookup is anchored on** splits the tokens in two. -/
theorem exists_split (h : ∃ t ∈ s.tokens, t.edge edge = offset) (skip : Nat) :
    ∃ xs u ys, s.tokens = xs ++ u :: ys ∧ u.edge edge = offset ∧
      s.anchor edge offset skip = .ok (xs.length, skip) := by
  obtain ⟨t, ht, hedge⟩ := h
  obtain ⟨i, u, hplace, hu, hat, -⟩ := exists_placeOf? ht hedge
  obtain ⟨hi, rfl⟩ := List.getElem?_eq_some_iff.1 hu
  refine ⟨s.tokens.take i, s.tokens[i], s.tokens.drop (i + 1), ?_, hat, ?_⟩
  · rw [← List.drop_eq_getElem_cons, List.take_append_drop]
  · unfold anchor
    rw [hplace, List.length_take, Nat.min_eq_left (Nat.le_of_lt hi)]
    exact if_pos (Int.natCast_nonneg skip)

/-- **The order about an anchor.** What precedes it ends at its start or earlier, and what
follows starts at its end or later. -/
theorem sides (h : s.tokens = xs ++ u :: ys) :
    (∀ x ∈ xs, x.range.stop ≤ u.range.start) ∧
      (∀ x ∈ xs ++ [u], x.range.stop ≤ u.range.stop) ∧
      (∀ y ∈ u :: ys, u.range.start ≤ y.range.start) ∧
      ∀ y ∈ ys, u.range.stop ≤ y.range.start := by
  have hordered := s.ordered
  rw [h, List.pairwise_append, List.pairwise_cons] at hordered
  have hle := u.range.start_le_stop
  have hleft (x : Token) (hx : x ∈ xs) : x.range.stop ≤ u.range.start :=
    hordered.2.2 x hx u List.mem_cons_self
  have hright (y : Token) (hy : y ∈ ys) : u.range.stop ≤ y.range.start := hordered.2.1.1 y hy
  refine ⟨hleft, fun x hx => ?_, fun y hy => ?_, hright⟩
  · rcases List.mem_append.1 hx with hmem | hmem
    · exact Nat.le_trans (hleft x hmem) hle
    · exact Nat.le_of_eq (congrArg (·.range.stop) (List.mem_singleton.1 hmem))
  · rcases List.mem_cons.1 hy with rfl | hmem
    · exact Nat.le_refl _
    · exact Nat.le_trans hle (hright y hmem)

/-- The place of an anchor is one of the store. -/
theorem length_lt_size (h : s.tokens = xs ++ u :: ys) : xs.length < s.size := by
  unfold size
  rw [h, List.length_append, List.length_cons]
  omega

/-- To lie before an offset is to stand in a prefix of the tokens from some place on. -/
theorem pairwise_stop_le (h : (xs ++ ys).Pairwise Token.Before) (stop : Nat) :
    ys.Pairwise fun a b => decide (b.range.stop ≤ stop) → decide (a.range.stop ≤ stop) := by
  refine (List.pairwise_append.1 h).2.1.imp fun {a b} hab hb => ?_
  have := b.range.start_le_stop
  unfold Token.Before at hab
  simp only [decide_eq_true_eq] at hb ⊢
  omega

/-- To lie after one is to stand in a prefix of those up to some place, read backwards. -/
theorem pairwise_le_start (h : (xs ++ ys).Pairwise Token.Before) (start : Nat) :
    xs.reverse.Pairwise fun a b =>
      decide (start ≤ b.range.start) → decide (start ≤ a.range.start) := by
  refine List.pairwise_reverse.2 ((List.pairwise_append.1 h).1.imp fun {b a} hba hb => ?_)
  have := b.range.start_le_stop
  unfold Token.Before at hba
  simp only [decide_eq_true_eq] at hb ⊢
  omega

/-- A walk passes over the tokens that are not looked up. -/
theorem not_passed_eq (comments : Bool) (t : Token) :
    (comments || !t.kind.isComment) = decide (Listing.Shown comments t) := by
  obtain ⟨kind, -, -, -, -⟩ := t
  cases comments <;> cases kind <;> rfl

/-- **What a walk meets is a filter**, where the tokens beyond come after all others. -/
theorem met_eq_filter {comments : Bool} {p beyond : Token → Bool} {ts : List Token}
    (hp : ∀ t, beyond t ↔ ¬ p t) (h : ts.Pairwise fun a b => p b → p a) :
    met comments beyond ts = ts.filter fun t => p t && decide (Listing.Shown comments t) := by
  have hbeyond : (fun t => !beyond t) = p := by
    funext t
    rw [Bool.eq_iff_iff, Bool.not_eq_true', ← Bool.not_eq_true, hp, Decidable.not_not]
  unfold met
  rw [hbeyond, takeWhile_eq_filter h, List.filter_filter]
  refine List.filter_congr fun t _ => ?_
  rw [not_passed_eq, Bool.and_comm]

/-- The offsets of edges that a listing has are those of the tokens. -/
theorem edges_listing (s : TokenStore) (edge : Edge) :
    s.listing.edges edge = s.tokens.map (·.edge edge) := by
  cases edge <;> rfl

/-- A lookup that finds no token with its edge fails, and one that does goes on from there. -/
theorem eq_pick_of_split {choice : List Token} {lookup : Except Breach (Option Token)}
    (hnone : ∀ b, s.anchor edge offset skip = .error b → lookup = .error b)
    (hsplit : ∀ xs u ys, s.tokens = xs ++ u :: ys → u.edge edge = offset →
      s.anchor edge offset skip = .ok (xs.length, skip) → lookup = .ok choice[skip]?) :
    lookup = s.listing.pick edge offset choice skip := by
  unfold Listing.pick
  simp only [edges_listing, List.mem_map]
  by_cases h : ∃ t ∈ s.tokens, t.edge edge = offset
  · obtain ⟨xs, u, ys, htokens, hedge, hanchor⟩ := exists_split h skip
    exact (hsplit xs u ys htokens hedge hanchor).trans (if_pos h).symm
  · exact (hnone _ (anchor_of_not_exists h)).trans (if_neg h).symm

variable {comments : Bool} (hne : ∀ t ∈ s.tokens, t.range.start < t.range.stop)
include hne

/-- Where tokens are not empty, what precedes an anchor starts earlier, and what follows it ends
later. -/
theorem strict_sides (h : s.tokens = xs ++ u :: ys) :
    (∀ x ∈ xs, x.range.start < u.range.start) ∧
      (∀ x ∈ xs ++ [u], x.range.start < u.range.stop) ∧
      (∀ y ∈ u :: ys, u.range.start < y.range.stop) ∧
      ∀ y ∈ ys, u.range.stop < y.range.stop := by
  obtain ⟨hleft, hupto, hfrom, hright⟩ := sides h
  have hne : ∀ t ∈ xs ++ [u] ++ ys, t.range.start < t.range.stop := by
    rwa [← List.append_cons, ← h]
  simp only [List.forall_mem_append, List.forall_mem_singleton] at hne
  obtain ⟨⟨hxs, hu⟩, hys⟩ := hne
  refine ⟨fun x hx => (hxs x hx).trans_le (hleft x hx), ?_, ?_,
    fun y hy => (hright y hy).trans_lt (hys y hy)⟩
  · exact List.forall_mem_append.2 ⟨fun x hx => (hxs x hx).trans_le
      (hupto x (List.mem_append_left _ hx)), List.forall_mem_singleton.2 hu⟩
  · exact List.forall_mem_cons.2 ⟨hu, fun y hy =>
      (hfrom y (List.mem_cons_of_mem _ hy)).trans_lt (hys y hy)⟩

/-- **The first token of a range**: nothing before the anchor lies in it. -/
theorem firstToken_eq_pick :
    s.firstToken r skip comments =
      s.listing.pick .start r.start (s.listing.inside r comments) skip := by
  refine eq_pick_of_split (fun b hb => by unfold firstToken; rw [hb]; rfl) ?_
  intro xs u ys htokens hedge hanchor
  have hedge : u.range.start = r.start := hedge
  obtain ⟨-, -, hright, -⟩ := sides htokens
  obtain ⟨hleft, -, -, -⟩ := strict_sides hne htokens
  have hinside : s.listing.inside r comments = (u :: ys).filter fun t =>
      decide (t.range.stop ≤ r.stop) && decide (Listing.Shown comments t) := by
    refine filter_eq_of_right htokens (fun x hx => ?_) fun y hy => ?_
    · have hlt : ¬ r.start ≤ x.range.start := Nat.not_le.2 (hedge ▸ hleft x hx)
      simp [hlt]
    · have hle : r.start ≤ y.range.start := hedge ▸ hright y hy
      simp [hle]
  have hprefix := pairwise_stop_le (htokens ▸ s.ordered) r.stop
  rw [firstToken_of_anchor hanchor, hinside, htokens, List.drop_left]
  cases comments with
  | true =>
    rw [if_pos rfl, getElem?_filter_of_prefix hprefix]
    simp [Listing.Shown]
  | false => rw [if_neg Bool.false_ne_true, met_eq_filter (fun t => by simp) hprefix]

/-- **The last token of a range**: nothing after the anchor lies in it. -/
theorem lastToken_eq_pick :
    s.lastToken r skip comments =
      s.listing.pick .stop r.stop (s.listing.inside r comments).reverse skip := by
  refine eq_pick_of_split (fun b hb => by unfold lastToken; rw [hb]; rfl) ?_
  intro xs u ys htokens hedge hanchor
  have hedge : u.range.stop = r.stop := hedge
  obtain ⟨-, hleft, -, -⟩ := sides htokens
  obtain ⟨-, -, -, hright⟩ := strict_sides hne htokens
  have hplace := length_lt_size htokens
  rw [List.append_cons] at htokens
  have hinside : s.listing.inside r comments = (xs ++ [u]).filter fun t =>
      decide (r.start ≤ t.range.start) && decide (Listing.Shown comments t) := by
    refine filter_eq_of_left htokens (fun x hx => ?_) fun y hy => ?_
    · have hle : x.range.stop ≤ r.stop := hedge ▸ hleft x hx
      simp [hle]
    · have hlt : ¬ y.range.stop ≤ r.stop := Nat.not_le.2 (hedge ▸ hright y hy)
      simp [hlt]
  have hprefix := pairwise_le_start (htokens ▸ s.ordered) r.start
  have htake : s.tokens.take (xs.length + 1) = xs ++ [u] := by
    rw [htokens, List.take_left' (by simp)]
  rw [lastToken_of_anchor hanchor hplace, hinside, htake, ← List.filter_reverse]
  cases comments with
  | true =>
    rw [if_pos rfl, getElem?_filter_of_prefix hprefix]
    simp [Listing.Shown]
  | false => rw [if_neg Bool.false_ne_true, met_eq_filter (fun t => by simp) hprefix]

/-- **The token before a range**: just what precedes the anchor ends there or earlier. -/
theorem tokenBefore_eq_pick :
    s.tokenBefore r skip comments =
      s.listing.pick .start r.start (s.listing.before r comments).reverse skip := by
  refine eq_pick_of_split (fun b hb => by unfold tokenBefore; rw [hb]; rfl) ?_
  intro xs u ys htokens hedge hanchor
  have hedge : u.range.start = r.start := hedge
  obtain ⟨hleft, -, -, -⟩ := sides htokens
  obtain ⟨-, -, hright, -⟩ := strict_sides hne htokens
  have hbefore : s.listing.before r comments =
      xs.filter fun t => decide (Listing.Shown comments t) := by
    refine filter_eq_of_left htokens (fun x hx => ?_) fun y hy => ?_
    · have hle : x.range.stop ≤ r.start := hedge ▸ hleft x hx
      simp [hle]
    · have hlt : ¬ y.range.stop ≤ r.start := Nat.not_le.2 (hedge ▸ hright y hy)
      simp [hlt]
  rw [tokenBefore_of_anchor hanchor (length_lt_size htokens), hbefore, htokens, List.take_left,
    met_of_forall fun _ _ => rfl, ← List.filter_reverse]
  simp only [not_passed_eq]

/-- **The token after a range**: just what follows the anchor starts there or later. -/
theorem tokenAfter_eq_pick :
    s.tokenAfter r skip comments =
      s.listing.pick .stop r.stop (s.listing.after r comments) skip := by
  refine eq_pick_of_split (fun b hb => by unfold tokenAfter; rw [hb]; rfl) ?_
  intro xs u ys htokens hedge hanchor
  have hedge : u.range.stop = r.stop := hedge
  obtain ⟨-, -, -, hright⟩ := sides htokens
  obtain ⟨-, hleft, -, -⟩ := strict_sides hne htokens
  rw [List.append_cons] at htokens
  have hafter : s.listing.after r comments =
      ys.filter fun t => decide (Listing.Shown comments t) := by
    refine filter_eq_of_right htokens (fun x hx => ?_) fun y hy => ?_
    · have hlt : ¬ r.stop ≤ x.range.start := Nat.not_le.2 (hedge ▸ hleft x hx)
      simp [hlt]
    · have hle : r.stop ≤ y.range.start := hedge ▸ hright y hy
      simp [hle]
  rw [tokenAfter_of_anchor hanchor, hafter, htokens, List.drop_left' (by simp),
    met_of_forall fun _ _ => rfl]
  simp only [not_passed_eq]

end Lookups

/-- **The indexes keep to the listing** through every run, also past the operations it refuses: the
place that one of them has for an offset is the last at which the listing has the edge. -/
theorem placeOf?_run (ops : List Operation) (edge : Edge) (offset : Nat) :
    (empty.run ops).1.placeOf? edge offset =
      (((empty.run ops).1.listing.edges edge).reverse.idxOf? offset).map
        ((empty.run ops).1.size - 1 - ·) := by
  rw [placeOf?_eq, edges_listing, ← List.map_reverse, List.idxOf?, List.findIdx?_map]
  rfl

/-- **A store of tokens that are not empty is its listing.** Through every run of operations it
accepts what the listing takes, and keeps it; and whatever is looked up afterwards is found
where the listing has it. -/
theorem run_agrees (ops : List Operation)
    (hne : ∀ op ∈ ops, ∀ t ∈ op.tokens, t.range.start < t.range.stop) :
    Listing.Run ⟨[], false⟩ ops ((empty.run ops).2.map Option.isNone) (empty.run ops).1.listing ∧
      ∀ (r : Range) (skip : Nat) (comments : Bool),
        (empty.run ops).1.listing.Answers (empty.run ops).1 r skip comments := by
  have hrun := empty.run_follows ops
  refine ⟨hrun, fun r skip comments => ?_⟩
  have hall : ∀ t ∈ (empty.run ops).1.tokens, t.range.start < t.range.stop := by
    intro t ht
    rcases mem_of_listing_run hrun ht with hmem | ⟨op, hop, hmem⟩
    · cases hmem
    · exact hne op hop t hmem
  exact {
    first := firstToken_eq_pick hall
    last := lastToken_eq_pick hall
    before := tokenBefore_eq_pick hall
    after := tokenAfter_eq_pick hall }

/-- A run that refuses the second token of a list, and a token that comes after the end. -/
def Operation.refused : List Operation :=
  let token (kind : TokenKind) (start size : Nat) : Token :=
    ⟨kind, [], [], ⟨start, start + size, Nat.le_add_right start size⟩,
      ⟨⟨1, start⟩, ⟨1, start + size⟩⟩⟩
  [.append (token .identifier 0 2),
    .extend [token .block 2 3, token .numeric 4 2, token .numeric 6 1],
    .append (token .string 7 2), .close, .append (token .punctuator 9 1)]

/-- The kind of the token that a lookup finds in the store of that run. -/
def Operation.kind? (lookup : TokenStore → Except Breach (Option Token)) :
    Except Breach (Option TokenKind) :=
  (lookup (empty.run Operation.refused).1).map (Option.map (·.kind))

/-- It is refused twice and keeps a comment between two other tokens. A lookup that comes past the
comment finds it when comments are included, and else the token on its other side, if the range
holds that; and one that is not anchored fails. -/
theorem run_agrees_refused :
    (∀ op ∈ Operation.refused, ∀ t ∈ op.tokens, t.range.start < t.range.stop) ∧
      (empty.run Operation.refused).2.map Option.isNone = [true, false, true, true, false] ∧
      (empty.run Operation.refused).1.tokens.map (·.range.start) = [0, 2, 7] ∧
      (∀ comments, Operation.kind? (·.firstToken ⟨0, 9, by decide⟩ 1 comments) =
        .ok (some (if comments then .block else .string))) ∧
      (∀ comments, Operation.kind? (·.lastToken ⟨0, 9, by decide⟩ 1 comments) =
        .ok (some (if comments then .block else .identifier))) ∧
      (∀ comments, Operation.kind? (·.firstToken ⟨0, 5, by decide⟩ 1 comments) =
        .ok (if comments then some .block else none)) ∧
      (∀ comments, Operation.kind? (·.lastToken ⟨2, 9, by decide⟩ 1 comments) =
        .ok (if comments then some .block else none)) ∧
      (∀ comments, Operation.kind? (·.tokenBefore ⟨7, 9, by decide⟩ 0 comments) =
        .ok (some (if comments then .block else .identifier))) ∧
      (∀ comments, Operation.kind? (·.tokenAfter ⟨0, 2, by decide⟩ 0 comments) =
        .ok (some (if comments then .block else .string))) ∧
      (∀ comments, Operation.kind? (·.firstToken ⟨1, 9, by decide⟩ 0 comments) =
        .error (.noTokenAt .start 1)) ∧
      Listing.Run ⟨[], false⟩ Operation.refused
        ((empty.run Operation.refused).2.map Option.isNone)
        (empty.run Operation.refused).1.listing ∧
      ∀ (r : Range) (skip : Nat) (comments : Bool),
        (empty.run Operation.refused).1.listing.Answers (empty.run Operation.refused).1 r skip
          comments :=
  ⟨by decide, by decide, by decide, by decide, by decide, by decide, by decide, by decide,
    by decide, by decide, run_agrees Operation.refused (by decide)⟩

end TokenStore

end SingleFile
