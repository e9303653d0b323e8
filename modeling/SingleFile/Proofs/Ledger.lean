import SingleFile.Template.Emission

/-!
# Ledgers — which effects are accepted

A store accepts a list of tokens exactly when they go on in order after
the ones it holds (`TokenStore.pushAll_eq_none_iff`), and refuses from
the first that does not. A ledger refuses nothing but tokens, so whether
a reading is accepted is a question about the tokens it emits
(`Ledger.enterAll_eq_none_iff`), and an accepted reading leaves behind
just what it emitted (`Ledger.enterAll_fst`).
-/

namespace SingleFile

/-! ## Stores -/

namespace TokenStore

/-- A store is its tokens and whether it takes more: its indexes are made from the tokens. -/
theorem eq_of_tokens_eq {s t : TokenStore} (h : s.tokens = t.tokens)
    (hs : s.isSealed = t.isSealed) : s = t := by
  obtain ⟨tokens, _, _, isSealed, _, rfl, rfl⟩ := s
  obtain ⟨_, _, _, _, _, rfl, rfl⟩ := t
  cases h
  cases hs
  rfl

/-- The closed store of some tokens in order. -/
def closed (ts : List Token) (h : ts.Pairwise Token.Before) : TokenStore :=
  ⟨ts, .ofTokens .start ts, .ofTokens .stop ts, true, h, rfl, rfl⟩

/-- **What a store accepts.** A token goes in when the store is open and
the token starts at or after the end of the last one. -/
theorem push_eq_ok_iff {s s' : TokenStore} {t : Token} :
    s.push t = .ok s' ↔ s.isSealed = false ∧
      (∀ last, s.tokens.getLast? = some last → last.Before t) ∧
      s'.tokens = s.tokens ++ [t] ∧ s'.isSealed = false := by
  unfold push
  by_cases hs : s.isSealed
  · simp [hs]
  rw [if_neg hs]
  rw [Bool.not_eq_true] at hs
  split
  · rename_i hl
    simp only [Except.ok.injEq, hl, reduceCtorEq, false_implies, implies_true, true_and]
    exact ⟨fun h => by subst h; simp [hs],
      fun h => eq_of_tokens_eq h.2.1.symm (hs.trans h.2.2.symm)⟩
  · rename_i last hl
    split
    · rename_i hb
      simp only [Except.ok.injEq, hl, Option.some.injEq, forall_eq']
      exact ⟨fun h => by subst h; exact ⟨hs, hb, rfl, hs⟩,
        fun h => eq_of_tokens_eq h.2.2.1.symm (hs.trans h.2.2.2.symm)⟩
    · rename_i hb
      simp only [reduceCtorEq, hl, Option.some.injEq, forall_eq', false_iff]
      exact fun h => hb h.2.1

/-- A store that accepts a token was open, and goes on with it. -/
theorem tokens_of_push {s s' : TokenStore} {t : Token} (h : s.push t = .ok s') :
    s'.tokens = s.tokens ++ [t] ∧ s'.isSealed = s.isSealed := by
  obtain ⟨ho, -, ht, hs⟩ := push_eq_ok_iff.1 h
  exact ⟨ht, hs.trans ho.symm⟩

/-- The tokens of a store stay, and what was accepted of the new ones follows. -/
theorem pushAll_tokens (s : TokenStore) (ts : List Token) :
    ∃ taken, taken <+: ts ∧ (s.pushAll ts).1.tokens = s.tokens ++ taken ∧
      (s.pushAll ts).1.isSealed = s.isSealed ∧
      ((s.pushAll ts).2 = none → taken = ts) := by
  induction ts generalizing s with
  | nil => exact ⟨[], List.prefix_rfl, by simp [pushAll], rfl, fun _ => rfl⟩
  | cons t ts ih =>
    cases h : s.push t with
    | error b => exact ⟨[], List.nil_prefix, by simp [pushAll, h], by simp [pushAll, h],
        by simp [pushAll, h]⟩
    | ok s' =>
      obtain ⟨ht, hs⟩ := tokens_of_push h
      obtain ⟨taken, hp, h1, h2, h3⟩ := ih s'
      refine ⟨t :: taken, (List.prefix_cons_inj t).2 hp, ?_, ?_, ?_⟩
      · simp [pushAll, h, h1, ht]
      · simp [pushAll, h, h2, hs]
      · simpa [pushAll, h] using h3

/-- **A store is changed by the first token alone**: it stays as it was exactly
when that one is refused, or there is none. -/
theorem pushAll_fst_eq_self_iff {s : TokenStore} {ts : List Token} :
    (s.pushAll ts).1 = s ↔ ∀ t rest, ts = t :: rest → ∀ s', s.push t ≠ .ok s' := by
  cases ts with
  | nil => exact iff_of_true rfl fun t rest heq => by cases heq
  | cons t rest =>
    cases h : s.push t with
    | error b =>
      refine iff_of_true (by simp [pushAll, h]) fun t' rest' heq s' hs' => ?_
      obtain ⟨rfl, -⟩ := List.cons.inj heq
      rw [h] at hs'
      cases hs'
    | ok s' =>
      -- what was accepted stays, so the store has grown by one token at least
      refine iff_of_false (fun heq => ?_) fun hnone => hnone t rest rfl s' h
      obtain ⟨taken, -, htokens, -⟩ := s'.pushAll_tokens rest
      have hgrown : (s.pushAll (t :: rest)).1.tokens = s.tokens ++ [t] ++ taken := by
        rw [← (tokens_of_push h).1, ← htokens]
        simp only [pushAll, h]
      rw [heq] at hgrown
      simp at hgrown

/-- **What a store accepts of a list of tokens.** All of them go in exactly
when they are in order after the tokens already there, and a sealed store
accepts none. -/
theorem pushAll_eq_none_iff {s : TokenStore} {ts : List Token} :
    (s.pushAll ts).2 = none ↔
      (s.isSealed = true → ts = []) ∧ (s.tokens ++ ts).Pairwise Token.Before := by
  induction ts generalizing s with
  | nil => simp [pushAll, s.ordered]
  | cons t ts ih =>
    cases h : s.push t with
    | ok s' =>
      obtain ⟨ho, -, ht, hs⟩ := push_eq_ok_iff.1 h
      simp only [pushAll, h, ih, ht, hs, ho, List.append_assoc, List.cons_append,
        List.nil_append, Bool.false_eq_true, false_implies, true_and]
    | error b =>
      simp only [pushAll, h, reduceCtorEq, false_iff, not_and]
      intro ho hp
      -- were the list in order, the store would have taken its first token
      have hopen : s.isSealed = false := by simpa using mt ho (by simp)
      have hlast : ∀ last, s.tokens.getLast? = some last → last.Before t := fun last hl =>
        (List.pairwise_append.1 hp).2.2 last (List.mem_of_getLast? hl) t (by simp)
      have : s.push t = .ok (s.concat t hlast) :=
        push_eq_ok_iff.2 ⟨hopen, hlast, rfl, hopen⟩
      rw [this] at h
      cases h

end TokenStore

namespace Template

/-! ## Effects -/

namespace Effect

/-- The tokens among some effects. -/
def tokens (es : List Effect) : List Token :=
  es.filterMap fun
    | .token t => some t
    | _ => none

/-- The comments among some effects. -/
def comments (es : List Effect) : List Comment :=
  es.filterMap fun
    | .comment c => some c
    | _ => none

/-- The events among some effects. -/
def events (es : List Effect) : List Event :=
  es.filterMap fun
    | .event e => some e
    | _ => none

/-- The texts handed over among some effects. -/
def texts (es : List Effect) : List Text :=
  es.filterMap fun
    | .asked text => some text
    | _ => none

/-- They are as many as were counted. -/
theorem length_texts (es : List Effect) : (texts es).length = asks es := by
  induction es with
  | nil => rfl
  | cons e es ih =>
    cases e with
    | asked text => exact congrArg (· + 1) ih
    | token t => exact ih
    | comment c => exact ih
    | event v => exact ih

/-- The tokens of effects in sequence. -/
@[simp] theorem tokens_append (es fs : List Effect) : tokens (es ++ fs) = tokens es ++ tokens fs :=
  List.filterMap_append

/-- The texts of effects in sequence. -/
@[simp] theorem texts_append (es fs : List Effect) : texts (es ++ fs) = texts es ++ texts fs :=
  List.filterMap_append

/-- The tokens of a list of tokens. -/
@[simp] theorem tokens_map_token (ts : List Token) : tokens (ts.map .token) = ts := by
  rw [tokens, List.filterMap_map]
  exact List.filterMap_some

/-- Tokens are no texts. -/
@[simp] theorem texts_map_token (ts : List Token) : texts (ts.map .token) = [] := by
  rw [texts, List.filterMap_map]
  exact List.filterMap_eq_nil_iff.2 fun _ _ => rfl

/-- Comments are no tokens. -/
@[simp] theorem tokens_map_comment (cs : List Comment) : tokens (cs.map .comment) = [] := by
  rw [tokens, List.filterMap_map]
  exact List.filterMap_eq_nil_iff.2 fun _ _ => rfl

end Effect

/-! ## Ledgers -/

namespace Ledger

/-- Entering the effects of two readings in turn. -/
theorem enterAll_append (l : Ledger) (es fs : List Effect) :
    l.enterAll (es ++ fs) =
      match l.enterAll es with
      | (l', none) => l'.enterAll fs
      | (l', some b) => (l', some b) := by
  induction es generalizing l with
  | nil => rfl
  | cons e es ih =>
    cases h : l.enter e with
    | ok l' => simp [enterAll, h, ih]
    | error b => simp [enterAll, h]

/-- Entering tokens is pushing them. -/
theorem enterAll_map_token (l : Ledger) (ts : List Token) :
    l.enterAll (ts.map .token) =
      ({ l with store := (l.store.pushAll ts).1 }, (l.store.pushAll ts).2) := by
  induction ts generalizing l with
  | nil => rfl
  | cons t ts ih =>
    cases h : l.store.push t with
    | ok s =>
      simp only [List.map_cons, enterAll, enter, h, bind, Except.bind, pure, Except.pure, ih,
        TokenStore.pushAll]
    | error b =>
      simp only [List.map_cons, enterAll, enter, h, bind, Except.bind, TokenStore.pushAll]

/-- Comments are always accepted. -/
theorem enterAll_map_comment (l : Ledger) (cs : List Comment) :
    l.enterAll (cs.map .comment) = ({ l with comments := l.comments ++ cs }, none) := by
  induction cs generalizing l with
  | nil => simp [enterAll]
  | cons c cs ih => simp [enterAll, enter, ih]

/-- The store of a ledger sees the tokens of the effects, and nothing else
is refused. -/
theorem enterAll_store (l : Ledger) (es : List Effect) :
    ((l.enterAll es).1.store, (l.enterAll es).2) = l.store.pushAll (Effect.tokens es) := by
  -- a comment, a text and an event go into lists that the store does not see
  induction es generalizing l with
  | nil => rfl
  | cons e es ih =>
    cases e with
    | token t =>
      cases h : l.store.push t with
      | ok s =>
        simpa [enterAll, enter, h, Effect.tokens, TokenStore.pushAll, bind, Except.bind, pure,
          Except.pure] using ih { l with store := s }
      | error b =>
        simp [enterAll, enter, h, Effect.tokens, TokenStore.pushAll, bind, Except.bind]
    | comment c => exact ih { l with comments := l.comments ++ [c] }
    | asked text => exact ih { l with asked := l.asked ++ [text] }
    | event v => exact ih { l with events := l.events ++ [v] }

/-- **A reading is accepted for its tokens alone.** -/
theorem enterAll_eq_none_iff {l : Ledger} {es : List Effect} :
    (l.enterAll es).2 = none ↔
      (l.store.isSealed = true → Effect.tokens es = []) ∧
        (l.store.tokens ++ Effect.tokens es).Pairwise Token.Before := by
  rw [← TokenStore.pushAll_eq_none_iff, ← enterAll_store]

/-- A ledger that holds no more than texts accepts tokens that are in order. -/
theorem enterAll_texts_eq_none_iff (asked : List Text) (es : List Effect) :
    (enterAll { asked := asked } es).2 = none ↔
      (Effect.tokens es).Pairwise Token.Before := by
  rw [enterAll_eq_none_iff]
  simp [TokenStore.empty]

/-- What else an accepted reading emits follows what is there. -/
theorem enterAll_comments {l : Ledger} {es : List Effect} (h : (l.enterAll es).2 = none) :
    (l.enterAll es).1.comments = l.comments ++ Effect.comments es ∧
      (l.enterAll es).1.events = l.events ++ Effect.events es ∧
      (l.enterAll es).1.asked = l.asked ++ Effect.texts es := by
  induction es generalizing l with
  | nil => simp [enterAll, Effect.comments, Effect.events, Effect.texts]
  | cons e es ih =>
    cases e with
    | token t =>
      cases hp : l.store.push t with
      | ok s =>
        simp only [enterAll, enter, hp, bind, Except.bind, pure, Except.pure] at h ⊢
        exact ih h
      | error b => simp [enterAll, enter, hp, bind, Except.bind] at h
    | comment c =>
      obtain ⟨hc, hrest⟩ := ih (l := { l with comments := l.comments ++ [c] }) h
      exact ⟨hc.trans (List.append_assoc ..), hrest⟩
    | asked text =>
      obtain ⟨hc, he, ha⟩ := ih (l := { l with asked := l.asked ++ [text] }) h
      exact ⟨hc, he, ha.trans (List.append_assoc ..)⟩
    | event v =>
      obtain ⟨hc, he, ha⟩ := ih (l := { l with events := l.events ++ [v] }) h
      exact ⟨hc, he.trans (List.append_assoc ..), ha⟩

/-- **What an accepted reading leaves behind**: all that it emitted, after what
was already there. -/
theorem enterAll_fst {l : Ledger} {es : List Effect} (h : (l.enterAll es).2 = none) :
    (l.enterAll es).1.store.tokens = l.store.tokens ++ Effect.tokens es ∧
      (l.enterAll es).1.comments = l.comments ++ Effect.comments es ∧
      (l.enterAll es).1.events = l.events ++ Effect.events es ∧
      (l.enterAll es).1.asked = l.asked ++ Effect.texts es := by
  refine ⟨?_, enterAll_comments h⟩
  have hs := enterAll_store l es
  obtain ⟨taken, -, ht, -, hall⟩ := l.store.pushAll_tokens (Effect.tokens es)
  rw [h] at hs
  have h1 : (l.enterAll es).1.store = (l.store.pushAll (Effect.tokens es)).1 :=
    congrArg Prod.fst hs
  rw [h1, ht, hall (congrArg Prod.snd hs).symm]

/-- **Texts that were handed over stay**, also when an effect is refused. -/
theorem asked_prefix_enterAll (l : Ledger) (es : List Effect) :
    l.asked <+: (l.enterAll es).1.asked := by
  induction es generalizing l with
  | nil => exact List.prefix_rfl
  | cons e es ih =>
    cases e with
    | token t =>
      cases h : l.store.push t with
      | ok s =>
        simpa [enterAll, enter, h, bind, Except.bind, pure, Except.pure] using
          ih { l with store := s }
      | error b => simp [enterAll, enter, h, bind, Except.bind]
    | comment c => exact ih { l with comments := l.comments ++ [c] }
    | asked text => exact (List.prefix_append _ _).trans (ih { l with asked := l.asked ++ [text] })
    | event v => exact ih { l with events := l.events ++ [v] }

/-- A reading ends well in a ledger when it ends well and all it emits is
accepted. -/
theorem run_snd_eq_ok_iff {l : Ledger} {m : Emission α} {v : α} :
    (l.run m).2 = .ok v ↔
      (m l.asked.length).result = .ok v ∧ (l.enterAll (m l.asked.length).effects).2 = none := by
  unfold run
  rcases h : l.enterAll (m l.asked.length).effects with ⟨l', _ | b⟩ <;> simp [h]

/-- The ledger after a reading holds what was accepted of it. -/
theorem run_fst (l : Ledger) (m : Emission α) :
    (l.run m).1 = (l.enterAll (m l.asked.length).effects).1 := by
  unfold run
  rcases h : l.enterAll (m l.asked.length).effects with ⟨l', _ | b⟩ <;> simp [h]

end Ledger

end Template

end SingleFile
