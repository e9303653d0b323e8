import SingleFile.Proofs.Expression.Commit
import SingleFile.Proofs.Template.Visitors

/-!
# Templates — rejections are caught

When the script reader rejects the text of an expression, the error is
recorded at the expression and the reading goes on. So the reading of a
template ends in no rejection, whatever the script reader answers
(`unrejected_transform`): it ends well, in a breach, at a character outside
the source, or in another failure of the script reader.
-/

namespace SingleFile

namespace Template

/-- The reading ends in no rejection of a script. -/
def Emission.Unrejected {α : Type} (m : Emission α) : Prop :=
  ∀ n e, (m n).result ≠ .error (.syntaxError e)

namespace Emission

variable {α β : Type} {m : Emission α} {f : α → Emission β}

/-- Readings in sequence. -/
theorem Unrejected.bind (hm : m.Unrejected) (hf : ∀ v, (f v).Unrejected) :
    (m >>= f).Unrejected := by
  intro n e
  cases h : (m n).result with
  | error g =>
    rw [bind_of_error h]
    intro heq
    cases heq
    exact hm n e h
  | ok v =>
    rw [bind_of_ok h]
    exact hf v _ e

/-- What can only breach. -/
theorem unrejected_ofBreach (r : Except Breach α) : (ofBreach r).Unrejected :=
  fun _ e => Failure.ofBreach_ne_syntaxError r e

end Emission

namespace ExpressionReader

variable (r : ExpressionReader)

/-- The answer to a text comes to no rejection: a syntax error is an answer. -/
theorem verdict_ne_syntaxError (n : Nat) (surrogate : Text) (e : SyntaxError) :
    r.verdict n surrogate ≠ .error (.syntaxError e) := by
  unfold verdict
  split
  · split
    · intro h
      cases h
    · intro h
      exact Failure.ofBreach_ne_syntaxError _ e (except_map_eq_error_iff.1 h)
  · intro h
    cases h
  · rename_i f hf _
    intro h
    cases h
    exact hf e rfl

/-- A commit can only breach. -/
theorem unrejected_commit (s : Nat) (code : Decoded) (program : Program) (node : ScriptNode) :
    (r.commit s code program node).Unrejected := by
  intro n e
  rcases r.commit_cases s code program node n with ⟨ts, cs, hw, ht, hc⟩ | ⟨b, hb⟩
  · rw [commit_of_anchored hw ht hc]
    exact Failure.ofBreach_ne_syntaxError (r.anchorNode s code node) e
  · rw [hb]
    exact fun h => by cases h

/-- **An expression** ends in no rejection. -/
theorem unrejected_read (start stop : Int) : (r.read start stop).Unrejected := by
  intro n e
  rcases r.refused_or_admitted start stop with hrefused | ⟨ha, surrogate, hs⟩
  · obtain ⟨b, hb⟩ := hrefused
    rw [hb]
    exact fun h => by cases h
  · rw [read_of_surrogate ha hs]
    rcases hv : r.verdict n surrogate with f | error | ⟨program, node⟩
    · intro h
      cases h
      exact r.verdict_ne_syntaxError n surrogate e hv
    · exact fun h => by cases h
    · have hcommit := r.unrejected_commit start.toNat (r.code start stop) program node (n + 1) e
      exact fun h => hcommit (except_map_eq_error_iff.1 h)

end ExpressionReader

namespace Context

variable (c : Context)

/-- **The parts of the visitors** end in no rejection, and neither do sequences of them. -/
theorem closed_unrejected : c.Closed Emission.Unrejected where
  scan hr n e h := by cases hr _ h
  breach := Emission.unrejected_ofBreach
  bind := Emission.Unrejected.bind
  token kind start stop := by
    unfold token
    split
    · exact (Emission.unrejected_ofBreach _).bind fun t _ _ h => by cases h
    · intro n e h
      cases h
  emit _ _ _ _ h := by cases h
  read := c.reader.unrejected_read

end Context

/-- **A transformation** ends in no rejection. -/
theorem Transformer.unrejected_transform (t : Transformer) (entries : List Markup.Entry)
    (e : SyntaxError) : (t.transform entries).2 ≠ .error (.syntaxError e) := by
  unfold transform
  split
  · exact fun h => by cases h
  · have hread := t.context.closed_unrejected.readDocument entries t.ledger.asked.length e
    have hrun : (t.ledger.run (t.context.readDocument entries)).2 ≠ .error (.syntaxError e) := by
      unfold Ledger.run
      dsimp only
      split
      · exact hread
      · exact fun h => by cases h
    split
    · rename_i heq
      intro h
      cases h
      exact hrun (congrArg Prod.snd heq)
    · exact fun h => by cases h

end Template

end SingleFile
