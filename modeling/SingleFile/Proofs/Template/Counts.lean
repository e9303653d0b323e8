import SingleFile.Proofs.Expression.Commit
import SingleFile.Proofs.Template.Attributes
import SingleFile.Proofs.Template.Ensures

/-!
# Templates — how many texts are handed over

A script reader may answer by the number of texts handed over before, so
what an expression comes to depends on its place among the expressions. A
reading that ends well hands over one text for each expression (`asks_read`)
and none for anything else, and `Counts` follows the number through a
reading together with what it returns and emits.
-/

namespace SingleFile

namespace Template

namespace Emission

variable {α β : Type} {m : Emission α} {f : α → Emission β} {j k : Nat}

/-! ## Numbers alone -/

/-- A reading that ends well hands over so many texts. -/
def Asks (m : Emission α) (k : Nat) : Prop :=
  ∀ n v, (m n).result = .ok v → Effect.asks (m n).effects = k

/-- In sequence the numbers add up. -/
theorem Asks.bind (hm : m.Asks j) (hf : ∀ v, (f v).Asks k) : (m >>= f).Asks (j + k) := by
  intro n w hw
  obtain ⟨v, hv, hfv⟩ := result_bind_eq_ok_iff.1 hw
  have hsecond := hf v _ w hfv
  rw [bind_of_ok hv, Effect.asks_append, hsecond, hm n v hv]

/-- A value alone. -/
theorem asks_pure (v : α) : (pure v : Emission α).Asks 0 := fun _ _ _ => rfl

/-- A result that emits nothing. -/
theorem asks_ofExcept (r : Except Failure α) : (ofExcept r).Asks 0 := fun _ _ _ => rfl

/-- The same for what can only breach. -/
theorem asks_ofBreach (r : Except Breach α) : (ofBreach r).Asks 0 := fun _ _ _ => rfl

/-! ## Numbers, values and tokens -/

/-- Whenever the reading ends well, the condition holds of the number of texts handed
over before it, of what it returns and the tokens it emitted, and of the number after it. -/
def Counts (m : Emission α) (Q : Nat → α → List Token → Nat → Prop) : Prop :=
  ∀ n v, (m n).result = .ok v →
    Q n v (Effect.tokens (m n).effects) (n + Effect.asks (m n).effects)

variable {P Q : Nat → α → List Token → Nat → Prop} {R : Nat → β → List Token → Nat → Prop}

/-- **Readings in sequence**: the second goes on from the number that the first ends with. -/
theorem Counts.bind (hm : m.Counts P)
    (hf : ∀ v, (f v).Counts fun mid w us n' => ∀ n ts, P n v ts mid → R n w (ts ++ us) n') :
    (m >>= f).Counts R := by
  intro n w hw
  obtain ⟨v, hv, hfv⟩ := result_bind_eq_ok_iff.1 hw
  rw [bind_of_ok hv, Effect.tokens_append, Effect.asks_append, ← Nat.add_assoc]
  exact hf v _ w hfv n _ (hm n v hv)

/-- A value alone. -/
theorem counts_pure {v : α} (h : ∀ n, Q n v [] n) : (pure v : Emission α).Counts Q := by
  intro n w hw
  cases hw
  exact h n

/-- What a reading ensures, it ensures whatever number it begins with. -/
theorem Ensures.counts {S : α → List Token → Prop} (h : m.Ensures S) (hm : m.Asks k) :
    m.Counts fun n v ts n' => n' = n + k ∧ S v ts := by
  intro n v hv
  exact ⟨by rw [hm n v hv], h n v hv⟩

end Emission

/-! ## Expressions -/

/-- **An expression is handed over as one text.** -/
theorem ExpressionReader.asks_read (r : ExpressionReader) (start stop : Int) :
    (r.read start stop).Asks 1 := by
  intro n v hv
  obtain ⟨ha, surrogate, hs⟩ := admitted_of_read hv
  rw [← Effect.length_texts, texts_read ha hs]
  rfl

namespace Context

variable (c : Context)

/-! ## Everything else -/

/-- A token. -/
theorem asks_token (kind : TokenKind) (start stop : Int) : (c.token kind start stop).Asks 0 := by
  unfold token
  split
  · have hemit : ∀ t, (Emission.emit (.token t)).Asks 0 := fun _ _ _ _ => rfl
    exact (Emission.asks_ofBreach _).bind hemit
  · exact Emission.asks_pure ()

/-- A place. -/
theorem asks_place (start stop : Int) : (c.place start stop).Asks 0 :=
  (Emission.asks_ofBreach _).bind fun _ => (Emission.asks_ofBreach _).bind fun _ =>
    Emission.asks_pure _

/-- A node that is one token. -/
theorem asks_covered {α : Type} (kind : TokenKind) (start stop : Int) (g : Place → α) :
    (c.token kind start stop >>= fun _ => c.place start stop >>= fun p =>
      (pure (g p) : Emission α)).Asks 0 :=
  (c.asks_token _ _ _).bind fun _ => (c.asks_place _ _).bind fun _ => Emission.asks_pure _

/-- A name. -/
theorem asks_named (start stop : Int) : (c.named start stop).Asks 0 := c.asks_covered _ _ _ _

/-- The name of a start tag. -/
theorem asks_tagName (start limit : Int) : (c.tagName start limit).Asks 0 :=
  (Emission.asks_ofExcept _).bind fun _ => (Emission.asks_ofExcept _).bind fun _ =>
    c.asks_named _ _

/-- A name looked for from both ends. -/
theorem asks_nameBetween (start stop limit : Int) : (c.nameBetween start stop limit).Asks 0 :=
  (Emission.asks_ofExcept _).bind fun _ => (Emission.asks_ofExcept _).bind fun _ =>
    c.asks_named _ _

/-- The name of an attribute. -/
theorem asks_readKey (directive : Bool) (start sign stop : Int) :
    (c.readKey directive start sign stop).Asks 0 := by
  unfold readKey
  split
  · exact (Emission.asks_ofExcept _).bind fun _ => Emission.Asks.bind (c.asks_covered _ _ _ _)
      fun _ => Emission.asks_pure _
  · exact (c.asks_nameBetween _ _ _).bind fun _ => Emission.asks_pure _

/-- An end tag. -/
theorem asks_closingTag (mark : Markup.ElementMark) : (c.closingTag mark).Asks 0 := by
  unfold closingTag
  split
  · exact Emission.asks_pure _
  · exact (c.asks_token _ _ _).bind fun _ => (c.asks_nameBetween _ _ _).bind fun _ =>
      (c.asks_token _ _ _).bind fun _ => (c.asks_place _ _).bind fun _ => Emission.asks_pure _

end Context

end Template

end SingleFile
