import SingleFile.Proofs.Expression.Commit
import SingleFile.Proofs.Template.Visitors

/-!
# Templates — tokens show the source

Every token of a template holds the source text of its range: the tokens
of markup are made so, and those of an expression are when they are
anchored, whatever text the script reader gave them. This is closed under
the parts that the visitors are made of (`closed_cuts`), and nothing about
the entries or the script reader is needed for it.
-/

namespace SingleFile

namespace Template

/-- All tokens that the reading emits hold the text of their range. -/
def Emission.Cuts {α : Type} (m : Emission α) (text : Text) : Prop :=
  m.Ensures fun _ ts => ∀ t ∈ ts, t.raw = t.range.of text

namespace Emission

variable {α β : Type} {m : Emission α} {f : α → Emission β} {text : Text}

/-- Readings in sequence. -/
theorem Cuts.bind (hm : m.Cuts text) (hf : ∀ v, (f v).Cuts text) : (m >>= f).Cuts text := by
  refine Ensures.bind hm fun v => (hf v).imp fun w us hus ts hts t ht => ?_
  rcases List.mem_append.1 ht with ht | ht
  · exact hts t ht
  · exact hus t ht

/-- A result that emits nothing. -/
theorem cuts_ofExcept (r : Except Failure α) : (ofExcept r).Cuts text :=
  ensures_ofExcept fun _ _ => List.forall_mem_nil _

end Emission

/-- **The tokens of an expression** are anchored with the text of their range. -/
theorem ExpressionReader.cuts_read (r : ExpressionReader) (start stop : Int) :
    (r.read start stop).Cuts r.text := by
  intro n v _
  by_cases h : ∃ program node ts cs, r.Commits start stop n program node ts cs
  · obtain ⟨program, node, ts, cs, hcommits⟩ := h
    obtain ⟨surrogate, -, hread⟩ := hcommits.read_eq
    have htokens : Effect.tokens (r.read start stop n).effects = ts := by
      rw [hread]
      change Effect.tokens (ts.map .token ++ cs.map .comment) = ts
      rw [Effect.tokens_append, Effect.tokens_map_token, Effect.tokens_map_comment,
        List.append_nil]
    rw [htokens]
    refine forall_mem_of_mapM (fun t t' ht => ?_) hcommits.tokens
    obtain ⟨p, -, rfl⟩ := anchorToken_eq_ok_iff.1 ht
    rfl
  · have hnone := (read_of_not_commits fun program node ts cs hc => h ⟨program, node, ts, cs, hc⟩).1
    rw [hnone]
    exact List.forall_mem_nil _

namespace Context

variable (c : Context)

/-- A token between two offsets. -/
theorem cuts_token (kind : TokenKind) (start stop : Int) :
    (c.token kind start stop).Cuts c.text := by
  refine (ensures_token kind).imp fun _ ts h t ht => ?_
  split at h
  · obtain ⟨t', rfl, hpart⟩ := h
    rw [List.mem_singleton.1 ht]
    exact hpart.raw_eq
  · rw [h] at ht
    cases ht

/-- **The parts of the visitors** show the source, as sequences of them do. -/
theorem closed_cuts : c.Closed fun m => m.Cuts c.text where
  scan _ := Emission.cuts_ofExcept _
  breach _ := Emission.cuts_ofExcept _
  bind hm hf := hm.bind hf
  token := c.cuts_token
  emit e he n v _ := by
    cases e with
    | token t => exact absurd rfl (he t)
    | comment _ | asked _ | event _ => exact List.forall_mem_nil _
  read := c.reader.cuts_read

/-- **A document.** -/
theorem cuts_readDocument (es : List Markup.Entry) : (c.readDocument es).Cuts c.text :=
  c.closed_cuts.readDocument es

end Context

end Template

end SingleFile
