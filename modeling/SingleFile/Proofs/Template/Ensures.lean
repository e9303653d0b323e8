import SingleFile.Proofs.Emission
import SingleFile.Proofs.Expression.Anchoring
import SingleFile.Proofs.Ledger
import SingleFile.Proofs.Location.Marks
import SingleFile.Template

/-!
# Templates — what a reading that ends well ensures

`Ensures m Q` says of a reading that, whenever it ends well, `Q` holds of
what it returns and of the tokens it emitted. A sequence is taken apart
by one rule (`Ensures.bind`), so what holds of the visitors follows their
definitions; a token between two offsets is the only place where markup
makes a token (`ensures_token`).
-/

namespace SingleFile

namespace Template

/-- Whenever the reading ends well, the condition holds of what it returns and of the
tokens it emitted. -/
def Emission.Ensures {α : Type} (m : Emission α) (Q : α → List Token → Prop) : Prop :=
  ∀ n v, (m n).result = .ok v → Q v (Effect.tokens (m n).effects)

namespace Emission

variable {α β : Type} {m : Emission α} {f : α → Emission β} {P Q : α → List Token → Prop}
  {R : β → List Token → Prop}

/-- A weaker condition is ensured as well. -/
theorem Ensures.imp (h : m.Ensures P) (hPQ : ∀ v ts, P v ts → Q v ts) : m.Ensures Q :=
  fun n v hv => hPQ v _ (h n v hv)

/-- Two conditions are ensured together. -/
theorem Ensures.and (hP : m.Ensures P) (hQ : m.Ensures Q) :
    m.Ensures fun v ts => P v ts ∧ Q v ts :=
  fun n v hv => ⟨hP n v hv, hQ n v hv⟩

/-- **Readings in sequence**: the second ensures its condition behind whatever the
first may have emitted. -/
theorem Ensures.bind (hm : m.Ensures P)
    (hf : ∀ v, (f v).Ensures fun w us => ∀ ts, P v ts → R w (ts ++ us)) : (m >>= f).Ensures R := by
  intro n w hw
  obtain ⟨v, hv, hfv⟩ := result_bind_eq_ok_iff.1 hw
  rw [bind_of_ok hv, Effect.tokens_append]
  exact hf v _ w hfv _ (hm n v hv)

/-- A value alone. -/
theorem ensures_pure {v : α} (h : Q v []) : (pure v : Emission α).Ensures Q := by
  intro n w hw
  cases hw
  exact h

/-- A result that emits nothing. -/
theorem ensures_ofExcept {r : Except Failure α} (h : ∀ v, r = .ok v → Q v []) :
    (ofExcept r).Ensures Q :=
  fun _ v hv => h v hv

/-- The same for what can only breach. -/
theorem ensures_ofBreach {r : Except Breach α} (h : ∀ v, r = .ok v → Q v []) :
    (ofBreach r).Ensures Q :=
  fun _ v hv => h v (Failure.ofBreach_eq_ok_iff.1 hv)

/-! ## Values -/

/-- Whenever the reading ends well, the condition holds of what it returns. -/
def Yields (m : Emission α) (P : α → Prop) : Prop :=
  m.Ensures fun v _ => P v

/-- **Readings in sequence**: the second may count on what the first returned. -/
theorem Yields.bind {P : α → Prop} {R : β → Prop} (hm : m.Yields P)
    (hf : ∀ v, P v → (f v).Yields R) : (m >>= f).Yields R := by
  intro n w hw
  obtain ⟨v, hv, hfv⟩ := result_bind_eq_ok_iff.1 hw
  exact hf v (hm n v hv) _ w hfv

/-- Where the second counts on nothing, the first may return what it likes. -/
theorem yields_bind {R : β → Prop} (hf : ∀ v, (f v).Yields R) : (m >>= f).Yields R :=
  Yields.bind (P := fun _ => True) (fun _ _ _ => trivial) fun v _ => hf v

/-- A reading that only breaches returns nothing. -/
theorem yields_breach {P : α → Prop} {b : Breach} : (ofBreach (.error b)).Yields P :=
  ensures_ofBreach fun _ hv => by cases hv

end Emission

/-! ## Tokens and places -/

namespace Context

variable {c : Context} {start stop : Int}

/-- **A token between two offsets** is emitted when they are in order. -/
theorem ensures_token (kind : TokenKind) :
    (c.token kind start stop).Ensures fun _ ts =>
      if start < stop then ∃ t, ts = [t] ∧ Token.IsPart t c.text start stop else ts = [] := by
  unfold token
  split
  · refine Emission.Ensures.bind (P := fun t ts => ts = [] ∧ Token.IsPart t c.text start stop) ?_ ?_
    · refine Emission.ensures_ofBreach fun t ht => ⟨rfl, ?_⟩
      obtain ⟨range, hrange, ht⟩ := except_bind_eq_ok_iff.1 ht
      obtain ⟨location, -, ht⟩ := except_bind_eq_ok_iff.1 ht
      cases ht
      obtain ⟨rfl, rfl⟩ := Range.ofBounds_eq_ok_iff.1 hrange
      exact ⟨rfl, rfl, rfl⟩
    · intro t n v hv ts hts
      obtain ⟨rfl, hpart⟩ := hts
      exact ⟨t, rfl, hpart⟩
  · exact Emission.ensures_pure rfl

/-- A place emits nothing and lies between its offsets. -/
theorem ensures_place :
    (c.place start stop).Ensures fun p ts =>
      ts = [] ∧ (p.range.start : Int) = start ∧ (p.range.stop : Int) = stop := by
  unfold place
  refine Emission.Ensures.bind
    (P := fun r ts => ts = [] ∧ (r.start : Int) = start ∧ (r.stop : Int) = stop) ?_ ?_
  · refine Emission.ensures_ofBreach fun r hr => ⟨rfl, ?_⟩
    obtain ⟨hstart, hstop⟩ := Range.ofBounds_eq_ok_iff.1 hr
    exact ⟨hstart.symm, hstop.symm⟩
  · intro r
    refine Emission.Ensures.bind (P := fun _ ts => ts = []) ?_ ?_
    · exact Emission.ensures_ofBreach fun _ _ => rfl
    · intro l
      refine Emission.ensures_pure ?_
      rintro us rfl ts ⟨rfl, hr⟩
      exact ⟨rfl, hr⟩

/-! ## Elements -/

/-- An element is its start tag, what it holds, and its end tag. -/
theorem visit_element (name : Text) (mark : Markup.ElementMark) (as : List Markup.Attribute)
    (children : List Markup.Entry) (content : Option (List Markup.Entry)) :
    c.visit (.element name mark as children content) =
      c.openingTag mark as >>= fun opened => c.visitAll (content.getD children) >>= fun inner =>
        c.closingTag mark >>= fun closing =>
          c.place mark.whole.start mark.whole.stop >>= fun p =>
            pure [.element p name opened.1 closing opened.2 inner] := by
  cases content <;> rfl

end Context

/-! ## Transformations -/

variable {c : Context} {asked : List Text} {entries : List Markup.Entry} {result : Result}

/-- What a transformer reads of entries: the document, and the effects that it emits. -/
abbrev Transformer.reading (t : Transformer) (entries : List Markup.Entry) : Emitted Document :=
  t.context.readDocument entries t.ledger.asked.length

/-- **What a call returns**: the document that is read, when the store is open and the tokens emitted
go on in order after those it holds, with a sealed store of all these tokens, and the comments there
were with those emitted. -/
theorem Transformer.transform_eq_ok_iff {t : Transformer} :
    (t.transform entries).2 = .ok result ↔
      t.ledger.store.isSealed = false ∧ (t.reading entries).result = .ok result.root ∧
        (t.ledger.store.tokens ++ Effect.tokens (t.reading entries).effects).Pairwise
          Token.Before ∧
        result.store.tokens =
          t.ledger.store.tokens ++ Effect.tokens (t.reading entries).effects ∧
        result.store.isSealed = true ∧
        result.comments = t.ledger.comments ++ Effect.comments (t.reading entries).effects := by
  unfold transform
  by_cases hsealed : t.ledger.store.isSealed = true
  · rw [if_pos hsealed]
    exact iff_of_false (fun h => by cases h) fun h => by simp [hsealed] at h
  rw [if_neg hsealed]
  rw [Bool.not_eq_true] at hsealed
  have haccepted : (t.ledger.enterAll (t.reading entries).effects).2 = none ↔ _ :=
    Ledger.enterAll_eq_none_iff
  have hsnd := fun v => Ledger.run_snd_eq_ok_iff (l := t.ledger)
    (m := t.context.readDocument entries) (v := v)
  have hfst := Ledger.run_fst t.ledger (t.context.readDocument entries)
  rcases hrun : t.ledger.run (t.context.readDocument entries) with ⟨ledger, e | root⟩
  · rw [hrun] at hsnd
    refine iff_of_false (fun h => by cases h) fun hok => ?_
    obtain ⟨-, hresult, hordered, -⟩ := hok
    have hnone := haccepted.2 ⟨fun h => by simp [hsealed] at h, hordered⟩
    cases (hsnd result.root).2 ⟨hresult, hnone⟩
  · rw [hrun] at hsnd hfst
    obtain ⟨hresult, hnone⟩ := (hsnd root).1 rfl
    obtain ⟨htokens, hcomments, -, -⟩ := Ledger.enterAll_fst hnone
    dsimp only at hfst
    rw [← hfst] at htokens hcomments
    constructor
    · intro h
      cases h
      exact ⟨hsealed, hresult, (haccepted.1 hnone).2, htokens, rfl, hcomments⟩
    · rintro ⟨-, hresult', -, htokens', hclosed, hcomments'⟩
      rw [hresult'] at hresult
      have hstore : result.store = ledger.store.close :=
        TokenStore.eq_of_tokens_eq (htokens'.trans htokens.symm) hclosed
      obtain ⟨root', store, comments⟩ := result
      cases hresult
      cases hstore
      cases hcomments'.trans hcomments.symm
      rfl

/-- **What a transformation returns**: the document that is read, when the tokens emitted are in
order, with a sealed store of these tokens and the comments emitted. -/
theorem Transformer.transform_start_eq_ok_iff :
    ((Transformer.start c asked).transform entries).2 = .ok result ↔
      (c.readDocument entries asked.length).result = .ok result.root ∧
        (Effect.tokens (c.readDocument entries asked.length).effects).Pairwise Token.Before ∧
        result.store.tokens = Effect.tokens (c.readDocument entries asked.length).effects ∧
        result.store.isSealed = true ∧
        result.comments = Effect.comments (c.readDocument entries asked.length).effects := by
  rw [transform_eq_ok_iff]
  exact and_iff_right rfl

/-- One that returns has read its document to the end, and its fresh store holds the tokens that
were emitted, and no others. -/
theorem Transformer.read_of_start
    (hok : ((Transformer.start c asked).transform entries).2 = .ok result) :
    (c.readDocument entries asked.length).result = .ok result.root ∧
      result.store.tokens = Effect.tokens (c.readDocument entries asked.length).effects := by
  obtain ⟨hresult, -, htokens, -⟩ := transform_start_eq_ok_iff.1 hok
  exact ⟨hresult, htokens⟩

/-- What its reading ensures holds of what it returns. -/
theorem Transformer.ensures_start {Q : Document → List Token → Prop}
    (h : (c.readDocument entries).Ensures Q)
    (hok : ((Transformer.start c asked).transform entries).2 = .ok result) :
    Q result.root result.store.tokens := by
  obtain ⟨hresult, htokens⟩ := read_of_start hok
  rw [htokens]
  exact h _ _ hresult

end Template

end SingleFile
