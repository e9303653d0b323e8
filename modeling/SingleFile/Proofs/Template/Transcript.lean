import SingleFile.Proofs.Template.Counts
import SingleFile.Proofs.Template.Expressions

/-!
# Templates — a reading and its expressions

What a reading of a template emits is markup with expressions in between.
A transcript lists both in order (`Part`), and of an expression it says
what its reading emitted; `Transcribes` holds when that is how the
expression is read, after as many others as come before it.

Markup is emitted the same way whatever the script reader answers. So
when the reader refuses some texts that it may have accepted before, a
reading that ended well ends well again: the transcript is the same
except for the expressions with these texts (`Revises`). The relation is
carried through the visitors by one rule for sequences
(`Revises.bind`).
-/

namespace SingleFile

/-- A script reader that refuses some texts, and else does as the given one. -/
def ScriptParser.refusing (p : ScriptParser) (errors : Text → Option SyntaxError) : ScriptParser :=
  fun n text =>
    match errors text with
    | some e => .error (.syntaxError e)
    | none => p n text

namespace Template

/-! ## Transcripts -/

/-- A part of what a reading emits: an effect of its markup, or the effects of an
expression. -/
inductive Part
  | markup (e : Effect)
  | expression (x : Delimited) (effects : List Effect)

namespace Part

/-- The effects of a part. -/
def effects : Part → List Effect
  | .markup e => [e]
  | .expression _ es => es

/-- The expression of a part. -/
def expression? : Part → Option Delimited
  | .markup _ => none
  | .expression x _ => some x

/-- The effects of parts in sequence. -/
def effectsAll (ps : List Part) : List Effect := ps.flatMap effects

/-- The expressions among parts. -/
def expressions (ps : List Part) : List Delimited := ps.filterMap expression?

/-- Effects of parts in sequence add up. -/
@[simp] theorem effectsAll_append (ps qs : List Part) :
    effectsAll (ps ++ qs) = effectsAll ps ++ effectsAll qs := List.flatMap_append

/-- And so do their expressions. -/
@[simp] theorem expressions_append (ps qs : List Part) :
    expressions (ps ++ qs) = expressions ps ++ expressions qs := List.filterMap_append

/-- The effects of markup. -/
@[simp] theorem effectsAll_map_markup (es : List Effect) : effectsAll (es.map .markup) = es := by
  induction es with
  | nil => rfl
  | cons e es ih => exact congrArg (e :: ·) ih

/-- There are no expressions in it. -/
@[simp] theorem expressions_map_markup (es : List Effect) : expressions (es.map .markup) = [] := by
  unfold expressions
  rw [List.filterMap_map]
  exact List.filterMap_eq_nil_iff.2 fun _ _ => rfl

end Part

/-- **A transcript**: the markup hands over no text, and every expression has been read by its
own code, after so many others, to the outcome that it has. -/
def ExpressionReader.Transcribes (r : ExpressionReader) : (n : Nat) → List Part → Prop
  | _, [] => True
  | n, .markup e :: ps => (∀ text, e ≠ .asked text) ∧ r.Transcribes n ps
  | n, .expression x es :: ps =>
    x.reading r n = ⟨es, .ok x.container.outcome⟩ ∧ r.Transcribes (n + 1) ps

/-- The reader whose script reader refuses some texts. -/
def ExpressionReader.refusing (r : ExpressionReader) (errors : Text → Option SyntaxError) :
    ExpressionReader :=
  { r with parser := r.parser.refusing errors }

/-- What is emitted for an expression that is refused. -/
def Delimited.rejection (x : Delimited) (r : ExpressionReader) (e : SyntaxError) : List Effect :=
  (x.surrogate? r).toList.map .asked ++
    [.event (.expressionRejected r.reporter (x.code r.text).1 (x.code r.text).2 e)]

/-- A part when some texts are refused. -/
def Part.revise (r : ExpressionReader) (errors : Text → Option SyntaxError) : Part → Part
  | .markup e => .markup e
  | .expression x es =>
    .expression (x.revise r errors)
      (match x.refusal? r errors with
        | some e => x.rejection r e
        | none => es)

namespace ExpressionReader

variable {r : ExpressionReader} {n : Nat} {ps qs : List Part} {x : Delimited} {es : List Effect}
  {outcome : Except SyntaxError ScriptNode} {errors : Text → Option SyntaxError}

/-- Transcripts in sequence make one. -/
theorem transcribes_append (hp : r.Transcribes n ps)
    (hq : r.Transcribes (n + (Part.expressions ps).length) qs) : r.Transcribes n (ps ++ qs) := by
  induction ps generalizing n with
  | nil => exact hq
  | cons p ps ih =>
    cases p with
    | markup e => exact ⟨hp.1, ih hp.2 hq⟩
    | expression x es =>
      refine ⟨hp.1, ih hp.2 ?_⟩
      have hlength : n + (Part.expressions (.expression x es :: ps)).length =
          n + 1 + (Part.expressions ps).length := by
        change n + ((Part.expressions ps).length + 1) = _
        omega
      exact hlength ▸ hq

/-- Effects that hand over no text make a transcript of markup. -/
theorem transcribes_map_markup (h : Effect.asks es = 0) : r.Transcribes n (es.map .markup) := by
  induction es with
  | nil => trivial
  | cons e es ih =>
    cases e with
    | asked text => cases h
    | token _ | comment _ | event _ => exact ⟨fun text => Effect.noConfusion, ih h⟩

/-! ## Expressions that are refused -/

/-- An expression that was read stands in the source and has a text. -/
theorem exists_surrogate_of_reading (h : x.reading r n = ⟨es, .ok outcome⟩) :
    r.Admits (x.code r.text).1 (x.code r.text).2 ∧ ∃ text, x.surrogate? r = some text := by
  have hread : r.read (x.code r.text).1 (x.code r.text).2 n = ⟨es, .ok outcome⟩ := h
  exact admitted_of_read (congrArg Emitted.result hread)

/-- It hands over this text and no other. -/
theorem asks_of_reading (h : x.reading r n = ⟨es, .ok outcome⟩) : Effect.asks es = 1 := by
  have hread : r.read (x.code r.text).1 (x.code r.text).2 n = ⟨es, .ok outcome⟩ := h
  have hasks := r.asks_read (x.code r.text).1 (x.code r.text).2 n outcome (by rw [hread])
  rwa [hread] at hasks

/-- The verdict on a text that is refused is the error it is refused with, and on any other it
is what it was. -/
theorem verdict_refusing (text : Text) :
    (r.refusing errors).verdict n text =
      match errors text with
      | some e => .ok (.error e)
      | none => r.verdict n text := by
  have hparser : (r.refusing errors).parser n text =
      match errors text with
      | some e => .error (.syntaxError e)
      | none => r.parser n text := rfl
  unfold verdict
  rw [hparser]
  cases errors text <;> rfl

mutual
/-- A node is anchored whatever texts are refused. -/
theorem anchorNode_refusing (start : Nat) (code : Decoded) : ∀ node : ScriptNode,
    (r.refusing errors).anchorNode start code node = r.anchorNode start code node
  | ⟨kind, range, location, raw, children⟩ => by
    rw [anchorNode, anchorNode, anchorNodes_refusing start code children]
    rfl

/-- And so are several. -/
theorem anchorNodes_refusing (start : Nat) (code : Decoded) : ∀ nodes : List ScriptNode,
    (r.refusing errors).anchorNodes start code nodes = r.anchorNodes start code nodes
  | [] => rfl
  | node :: nodes => by
    rw [anchorNodes, anchorNodes, anchorNode_refusing start code node,
      anchorNodes_refusing start code nodes]
end

/-- So what goes in for a program is the same. -/
theorem commit_refusing (start : Nat) (code : Decoded) (program : Program) (node : ScriptNode) :
    (r.refusing errors).commit start code program node = r.commit start code program node := by
  unfold commit
  rw [anchorNode_refusing]
  rfl

/-- **An expression when some texts are refused**: with one of these it is rejected, and with any
other it is read as before. -/
theorem reading_refusing (h : x.reading r n = ⟨es, .ok x.container.outcome⟩) :
    x.reading (r.refusing errors) n =
      ⟨(Part.revise r errors (.expression x es)).effects,
        .ok (x.revise r errors).container.outcome⟩ := by
  obtain ⟨hadmits, text, htext⟩ := exists_surrogate_of_reading h
  have hread : x.reading r n = r.read (x.code r.text).1 (x.code r.text).2 n := rfl
  have hread' : x.reading (r.refusing errors) n =
      (r.refusing errors).read (x.code r.text).1 (x.code r.text).2 n := rfl
  have hadmits' : (r.refusing errors).Admits (x.code r.text).1 (x.code r.text).2 := hadmits
  have htext' : (r.refusing errors).surrogate? (x.code r.text).1 (x.code r.text).2 = some text :=
    htext
  have hrefusal : x.refusal? r errors = errors text := by
    unfold Delimited.refusal?
    rw [htext, Option.bind_some]
  rw [hread, read_of_surrogate hadmits htext] at h
  rw [hread', read_of_surrogate hadmits' htext', verdict_refusing]
  cases herror : errors text with
  | some e =>
    rw [herror] at hrefusal
    simp only [Part.revise, Part.effects, Delimited.revise, Delimited.rejection, hrefusal, htext]
    rfl
  | none =>
    rw [herror] at hrefusal
    simp only [Part.revise, Part.effects, Delimited.revise, hrefusal, commit_refusing]
    exact h

/-- The number of texts handed over in a transcript is that of its expressions. -/
theorem Transcribes.asks (h : r.Transcribes n ps) :
    Effect.asks (Part.effectsAll ps) = (Part.expressions ps).length := by
  induction ps generalizing n with
  | nil => rfl
  | cons p ps ih =>
    cases p with
    | markup e =>
      cases e with
      | asked text => exact absurd rfl (h.1 text)
      | token _ | comment _ | event _ => exact ih h.2
    | expression x es =>
      change Effect.asks (es ++ Part.effectsAll ps) = (Part.expressions ps).length + 1
      rw [Effect.asks_append, asks_of_reading h.1, ih h.2, Nat.add_comm]

/-- **A transcript when some texts are refused** is one for the reader that refuses them. -/
theorem Transcribes.revise (h : r.Transcribes n ps) :
    (r.refusing errors).Transcribes n (ps.map (Part.revise r errors)) := by
  induction ps generalizing n with
  | nil => trivial
  | cons p ps ih =>
    cases p with
    | markup e => exact ⟨h.1, ih h.2⟩
    | expression x es =>
      refine ⟨?_, ih h.2⟩
      have hcode : (x.revise r errors).code r.text = x.code r.text := by
        unfold Delimited.revise
        split <;> rfl
      have hreading : (x.revise r errors).reading (r.refusing errors) n =
          x.reading (r.refusing errors) n := by
        unfold Delimited.reading
        rw [show (r.refusing errors).text = r.text from rfl, hcode]
      rw [hreading]
      exact reading_refusing h.1

/-- It has as many expressions. -/
theorem length_expressions_revise (ps : List Part) :
    (Part.expressions (ps.map (Part.revise r errors))).length = (Part.expressions ps).length := by
  induction ps with
  | nil => rfl
  | cons p ps ih =>
    cases p with
    | markup e => exact ih
    | expression x es => exact congrArg Nat.succ ih

end ExpressionReader

/-! ## Two readings -/

namespace Emission

variable {α β : Type} {r : ExpressionReader} {errors : Text → Option SyntaxError}
  {m m' : Emission α} {f f' : α → Emission β} {P Q : α → α → List Delimited → Prop}
  {R : β → β → List Delimited → Prop}

/-- Whenever the first reading ends well, it has a transcript, the second reading emits the
transcript with some texts refused and ends well, and the condition holds of what the two return
and of the expressions in the transcript. -/
def Revises (r : ExpressionReader) (errors : Text → Option SyntaxError) (m m' : Emission α)
    (Q : α → α → List Delimited → Prop) : Prop :=
  ∀ n v, (m n).result = .ok v → ∃ ps v', r.Transcribes n ps ∧ (m n).effects = Part.effectsAll ps ∧
    m' n = ⟨Part.effectsAll (ps.map (Part.revise r errors)), .ok v'⟩ ∧ Q v v' (Part.expressions ps)

/-- **Readings in sequence**: what comes second has a transcript of its own, whatever the two
first readings return. -/
theorem Revises.bind (hm : Revises r errors m m' P)
    (hf : ∀ v v' xs, P v v' xs →
      Revises r errors (f v) (f' v') fun w w' ys => R w w' (xs ++ ys)) :
    Revises r errors (m >>= f) (m' >>= f') R := by
  intro n w hw
  obtain ⟨v, hv, hfv⟩ := result_bind_eq_ok_iff.1 hw
  obtain ⟨ps, v', hps, hes, hm', hP⟩ := hm n v hv
  have hasks : Effect.asks (m n).effects = (Part.expressions ps).length := hes ▸ hps.asks
  have hasks' : Effect.asks (Part.effectsAll (ps.map (Part.revise r errors))) =
      (Part.expressions ps).length :=
    hps.revise.asks.trans (ExpressionReader.length_expressions_revise ps)
  rw [hasks] at hfv
  obtain ⟨qs, w', hqs, hfs, hf', hR⟩ := hf v v' _ hP _ w hfv
  refine ⟨ps ++ qs, w', ExpressionReader.transcribes_append hps hqs, ?_, ?_, ?_⟩
  · rw [bind_of_ok hv, hasks, hes, hfs, Part.effectsAll_append]
  · rw [bind_apply_ok hm', hasks', hf', List.map_append, Part.effectsAll_append]
  · rw [Part.expressions_append]
    exact hR

/-- **What hands over nothing** is all markup, and is emitted again as it was. -/
theorem Asks.revises (h : m.Asks 0) : Revises r errors m m fun v v' xs => v' = v ∧ xs = [] := by
  intro n v hv
  have hmap : ((m n).effects.map Part.markup).map (Part.revise r errors) =
      (m n).effects.map Part.markup := by
    rw [List.map_map]
    rfl
  refine ⟨(m n).effects.map .markup, v, ExpressionReader.transcribes_map_markup (h n v hv), ?_, ?_,
    rfl, Part.expressions_map_markup _⟩
  · rw [Part.effectsAll_map_markup]
  · rw [hmap, Part.effectsAll_map_markup, ← hv]

/-- Something that hands over nothing, and more after it. -/
theorem Asks.revises_bind (hm : m.Asks 0) (hf : ∀ v, Revises r errors (f v) (f' v) R) :
    Revises r errors (m >>= f) (m >>= f') R := by
  refine hm.revises.bind fun v v' xs hP => ?_
  obtain ⟨rfl, rfl⟩ := hP
  exact hf v'

/-- A result that emits nothing, and more after it. -/
theorem revises_ofExcept_bind {e : Except Failure α}
    (hf : ∀ v, e = .ok v → Revises r errors (f v) (f' v) R) :
    Revises r errors (ofExcept e >>= f) (ofExcept e >>= f') R := by
  cases e with
  | error e =>
    intro n w hw
    cases hw
  | ok v =>
    rw [ofExcept_ok, pure_bind, pure_bind]
    exact hf v rfl

/-- A value alone. -/
theorem revises_pure {v v' : α} (h : Q v v' []) : Revises r errors (pure v) (pure v') Q := by
  intro n w hw
  cases hw
  exact ⟨[], v', trivial, rfl, rfl, h⟩

end Emission

end Template

end SingleFile
