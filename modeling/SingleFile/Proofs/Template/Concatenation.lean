import SingleFile.Proofs.Expression.Commit
import SingleFile.Proofs.Template.Entries
import SingleFile.Proofs.Template.Visitors

/-!
# Templates — lists of entries in sequence

All visitors write to one ledger, and nothing that they read depends on
what is there, except that a script reader may answer by the number of
texts handed over before. With one that is a function of the text, an
entry is read alike wherever it comes (`closed_steady`), so a list of
entries is read part by part, and transforming it comes to transforming
its parts (`transform_append`). Only the order of the tokens is checked
across the parts (`returns_append_iff`).
-/

namespace SingleFile

namespace Template

/-! ## Readings that do not count -/

/-- The reading comes to the same however many texts were handed over before. -/
def Emission.Steady {α : Type} (m : Emission α) : Prop := ∀ n, m n = m 0

namespace Emission

variable {α β : Type} {m : Emission α} {f : α → Emission β}

/-- Readings in sequence. -/
theorem Steady.bind (hm : m.Steady) (hf : ∀ v, (f v).Steady) : (m >>= f).Steady := by
  intro n
  have hsame := hm n
  rcases hzero : m 0 with ⟨es, e | v⟩
  · rw [bind_apply_error (hsame.trans hzero), bind_apply_error hzero]
  · rw [bind_apply_ok (hsame.trans hzero), bind_apply_ok hzero, hf v (n + _), hf v (0 + _)]

/-- A result that emits nothing. -/
theorem steady_ofExcept (r : Except Failure α) : (ofExcept r).Steady := fun _ => rfl

end Emission

namespace ExpressionReader

variable {r : ExpressionReader} {parse : Text → Except Failure Program}

/-- What goes in for a program. -/
theorem steady_commit (start : Nat) (code : Decoded) (program : Program) (node : ScriptNode) :
    (r.commit start code program node).Steady := by
  unfold commit
  by_cases hwrapped : program.tokens.length < 2
  · rw [if_pos hwrapped]
    exact fun _ => rfl
  · rw [if_neg hwrapped]
    exact (Emission.steady_ofExcept _).bind fun _ =>
      (Emission.steady_ofExcept _).bind fun _ _ => rfl

/-- What is concluded from an answer. -/
theorem steady_conclude (start stop : Int) (surrogate : Text)
    (answer : Except SyntaxError Program) : (r.conclude start stop surrogate answer).Steady := by
  have hsettle (program : Program) : (settle program surrogate).Steady := by
    unfold settle
    split
    · exact fun _ => rfl
    · exact (Emission.steady_ofExcept _).bind fun _ _ => rfl
  unfold conclude
  cases answer with
  | ok program =>
    refine (hsettle program).bind fun outcome => ?_
    cases outcome with
    | ok found => exact (steady_commit _ _ _ _).bind fun _ _ => rfl
    | error e => exact fun _ => rfl
  | error e => exact fun _ => rfl

/-- **An expression**, when the script reader is a function of the text. -/
theorem steady_read (hr : r.parser = .ofFunction parse) (start stop : Int) :
    (r.read start stop).Steady := by
  rcases r.refused_or_admitted start stop with ⟨b, hb⟩ | ⟨hadmits, surrogate, hsurrogate⟩
  · intro n
    rw [hb, hb]
  · rw [read_eq_ask hadmits hsurrogate, hr]
    exact Emission.Steady.bind (fun _ => rfl) fun answer => steady_conclude _ _ _ answer

end ExpressionReader

namespace Context

variable {c : Context} {parse : Text → Except Failure Program} {es fs : List Markup.Entry}

/-- **Nothing that is read counts** what was handed over before. -/
theorem closed_steady (hc : c.reader.parser = .ofFunction parse) : c.Closed Emission.Steady where
  scan _ := Emission.steady_ofExcept _
  breach _ := Emission.steady_ofExcept _
  bind := Emission.Steady.bind
  token kind start stop := by
    unfold token
    split
    · exact (Emission.steady_ofExcept _).bind fun _ _ => rfl
    · exact fun _ => rfl
  emit _ _ _ := rfl
  read := ExpressionReader.steady_read hc

/-! ## Entries in sequence -/

/-- **Entries in sequence** are visited part by part. -/
theorem visitAll_append :
    c.visitAll (es ++ fs) =
      c.visitAll es >>= fun vs => c.visitAll fs >>= fun ws => pure (vs ++ ws) := by
  induction es with
  | nil => simp [visitAll]
  | cons e es ih =>
    rw [List.cons_append, visitAll, visitAll, ih]
    simp only [bind_assoc, pure_bind, List.append_assoc]

/-- **The whole is visited when both parts are**, each from the beginning, and it emits what they
emit. -/
theorem visitAll_append_eq_ok_iff (hc : c.reader.parser = .ofFunction parse) {xs : List Effect}
    {us : List Node} :
    c.visitAll (es ++ fs) 0 = ⟨xs, .ok us⟩ ↔
      ∃ ys vs zs ws, c.visitAll es 0 = ⟨ys, .ok vs⟩ ∧ c.visitAll fs 0 = ⟨zs, .ok ws⟩ ∧
        xs = ys ++ zs ∧ us = vs ++ ws := by
  have hsteady (n : Nat) : c.visitAll fs n = c.visitAll fs 0 := (closed_steady hc).visitAll fs n
  rw [visitAll_append]
  simp only [Emission.bind_eq_ok_iff, hsteady]
  constructor
  · rintro ⟨ys, vs, hvs, _, ⟨zs, ws, hws, _, hpure, rfl⟩, rfl⟩
    cases hpure
    exact ⟨ys, vs, zs, ws, hvs, hws, by rw [List.append_nil], rfl⟩
  · rintro ⟨ys, vs, zs, ws, hvs, hws, rfl, rfl⟩
    exact ⟨ys, vs, hvs, zs, ⟨zs, ws, hws, [], rfl, (List.append_nil zs).symm⟩, rfl⟩

/-- A document around entries whose marks lie in the source is their nodes. -/
theorem exists_readDocument_eq (hc : c.Indexed)
    (h : ∀ m ∈ es.filterMap Markup.Entry.mark?,
      0 ≤ m.start ∧ m.start ≤ m.stop ∧ m.stop ≤ c.text.length) :
    ∃ p, c.readDocument es = c.visitAll es >>= fun vs => pure ⟨p, vs⟩ := by
  obtain ⟨first, last, hbounds, hle, hlen⟩ := exists_bounds_of_marks h
  obtain ⟨p, hp⟩ := place_eq hc hle hlen
  refine ⟨p, ?_⟩
  unfold readDocument
  simp only [hbounds, hp, pure_bind]

end Context

/-! ## Transformations -/

section

variable {entries front back : List Markup.Entry} {text : Text} {parser : ScriptParser}
  {parse : Text → Except Failure Program} {settings : TemplateSettings} {result : Result}

/-- The context of a transformation. -/
abbrev contextOf (text : Text) (parser : ScriptParser) (settings : TemplateSettings) : Context :=
  .ofSettings text parser settings transformerName

section

variable (hmarks : ∀ m ∈ entries.filterMap Markup.Entry.mark?,
  0 ≤ m.start ∧ m.start ≤ m.stop ∧ m.stop ≤ text.length)

include hmarks

/-- What a transformation returns is what its entries come to, and their tokens are in order. -/
theorem visitAll_of_transform (hok : (transform entries text parser settings).2 = .ok result) :
    ∃ xs, (contextOf text parser settings).visitAll entries 0 = ⟨xs, .ok result.root.children⟩ ∧
      (Effect.tokens xs).Pairwise Token.Before ∧ result.store.tokens = Effect.tokens xs ∧
        result.comments = Effect.comments xs := by
  obtain ⟨hroot, hordered, htokens, -, hcomments⟩ := Transformer.transform_start_eq_ok_iff.1 hok
  obtain ⟨p, hp⟩ := Context.exists_readDocument_eq (c := contextOf text parser settings) rfl hmarks
  rw [hp, Emission.bind_pure_apply] at hroot hordered htokens hcomments
  obtain ⟨vs, hvs, hdocument⟩ := except_map_eq_ok_iff.1 hroot
  have hchildren : vs = result.root.children := congrArg Document.children hdocument
  refine ⟨_, ?_, hordered, htokens, hcomments⟩
  rw [← hchildren, ← hvs]
  rfl

/-- And entries are transformed to what they come to, when their tokens are in order. -/
theorem exists_transform_of_visitAll {xs : List Effect} {vs : List Node}
    (h : (contextOf text parser settings).visitAll entries 0 = ⟨xs, .ok vs⟩)
    (hordered : (Effect.tokens xs).Pairwise Token.Before) :
    ∃ result, (transform entries text parser settings).2 = .ok result ∧
      result.root.children = vs ∧ result.store.tokens = Effect.tokens xs ∧
        result.comments = Effect.comments xs := by
  obtain ⟨p, hp⟩ := Context.exists_readDocument_eq (c := contextOf text parser settings) rfl hmarks
  have hdocument : (contextOf text parser settings).readDocument entries 0 =
      ⟨xs, .ok ⟨p, vs⟩⟩ := by
    rw [hp, Emission.bind_pure_apply, h]
    rfl
  refine ⟨⟨⟨p, vs⟩, .closed _ hordered, Effect.comments xs⟩, ?_, rfl, rfl, rfl⟩
  refine Transformer.transform_start_eq_ok_iff.2 ?_
  rw [List.length_nil, hdocument]
  exact ⟨rfl, hordered, rfl, rfl, rfl⟩

end

section

variable (hmarks : ∀ m ∈ (front ++ back).filterMap Markup.Entry.mark?,
  0 ≤ m.start ∧ m.start ≤ m.stop ∧ m.stop ≤ text.length)

include hmarks

/-- What a transformation of two lists in sequence returns, by what each of them comes to. -/
theorem visitAll_of_transform_append
    (hok : (transform (front ++ back) text (.ofFunction parse) settings).2 = .ok result) :
    ∃ ys zs vs ws,
      (contextOf text (.ofFunction parse) settings).visitAll front 0 = ⟨ys, .ok vs⟩ ∧
      (contextOf text (.ofFunction parse) settings).visitAll back 0 = ⟨zs, .ok ws⟩ ∧
      (Effect.tokens ys ++ Effect.tokens zs).Pairwise Token.Before ∧
      result.root.children = vs ++ ws ∧
      result.store.tokens = Effect.tokens ys ++ Effect.tokens zs ∧
      result.comments = Effect.comments ys ++ Effect.comments zs := by
  obtain ⟨xs, hvisit, hordered, htokens, hcomments⟩ := visitAll_of_transform hmarks hok
  obtain ⟨ys, vs, zs, ws, hvs, hws, rfl, hchildren⟩ :=
    (Context.visitAll_append_eq_ok_iff rfl).1 hvisit
  rw [Effect.tokens_append] at hordered htokens
  exact ⟨ys, zs, vs, ws, hvs, hws, hordered, hchildren, htokens,
    hcomments.trans List.filterMap_append⟩

/-- **Transforming a list of entries comes to transforming its parts**, when the script reader is a
function of the text: if the whole returns, both parts do, each from a fresh start, and its nodes,
its tokens and its comments are theirs. -/
theorem transform_append
    (hok : (transform (front ++ back) text (.ofFunction parse) settings).2 = .ok result) :
    ∃ a b, (transform front text (.ofFunction parse) settings).2 = .ok a ∧
      (transform back text (.ofFunction parse) settings).2 = .ok b ∧
      result.root.children = a.root.children ++ b.root.children ∧
      result.store.tokens = a.store.tokens ++ b.store.tokens ∧
      result.comments = a.comments ++ b.comments := by
  obtain ⟨ys, zs, vs, ws, hvs, hws, hordered, hchildren, htokens, hcomments⟩ :=
    visitAll_of_transform_append hmarks hok
  obtain ⟨hfront, hback, -⟩ := List.pairwise_append.1 hordered
  rw [List.filterMap_append, List.forall_mem_append] at hmarks
  obtain ⟨a, ha, rfl, hatokens, hacomments⟩ := exists_transform_of_visitAll hmarks.1 hvs hfront
  obtain ⟨b, hb, rfl, hbtokens, hbcomments⟩ := exists_transform_of_visitAll hmarks.2 hws hback
  refine ⟨a, b, ha, hb, hchildren, ?_, ?_⟩
  · rw [htokens, hatokens, hbtokens]
  · rw [hcomments, hacomments, hbcomments]

/-- **The whole returns when both parts do and their tokens are in order**: nothing else is asked
across the parts. -/
theorem returns_append_iff :
    (∃ result, (transform (front ++ back) text (.ofFunction parse) settings).2 = .ok result) ↔
      ∃ a b, (transform front text (.ofFunction parse) settings).2 = .ok a ∧
        (transform back text (.ofFunction parse) settings).2 = .ok b ∧
        ∀ t ∈ a.store.tokens, ∀ u ∈ b.store.tokens, t.Before u := by
  have hparts := hmarks
  rw [List.filterMap_append, List.forall_mem_append] at hparts
  constructor
  · rintro ⟨result, hok⟩
    obtain ⟨ys, zs, vs, ws, hvs, hws, hordered, -⟩ := visitAll_of_transform_append hmarks hok
    obtain ⟨hfront, hback, hbefore⟩ := List.pairwise_append.1 hordered
    obtain ⟨a, ha, -, hatokens, -⟩ := exists_transform_of_visitAll hparts.1 hvs hfront
    obtain ⟨b, hb, -, hbtokens, -⟩ := exists_transform_of_visitAll hparts.2 hws hback
    exact ⟨a, b, ha, hb, hatokens ▸ hbtokens ▸ hbefore⟩
  · rintro ⟨a, b, ha, hb, hbefore⟩
    obtain ⟨ys, hvs, hfront, hatokens, -⟩ := visitAll_of_transform hparts.1 ha
    obtain ⟨zs, hws, hback, hbtokens, -⟩ := visitAll_of_transform hparts.2 hb
    rw [hatokens, hbtokens] at hbefore
    have hvisit := (Context.visitAll_append_eq_ok_iff rfl).2 ⟨ys, _, zs, _, hvs, hws, rfl, rfl⟩
    have hordered : (Effect.tokens (ys ++ zs)).Pairwise Token.Before := by
      rw [Effect.tokens_append]
      exact List.pairwise_append.2 ⟨hfront, hback, hbefore⟩
    obtain ⟨result, hok, -⟩ := exists_transform_of_visitAll hmarks hvisit hordered
    exact ⟨result, hok⟩

end

end

/-! ## An expression after a comment -/

namespace Halves

/-- A text, a comment and an expression. -/
def source : Text := "a<!--b-->{{c}}".toList

/-- The entries up to the comment. -/
def front : List Markup.Entry := [.text ⟨0, 1, 1, 1⟩, .comment ['b'] ⟨1, 9, 1, 2⟩]

/-- The rest. -/
def back : List Markup.Entry := [.text ⟨9, 14, 1, 10⟩]

/-- A function of the text that rejects everything. -/
def reject (_ : Text) : Except Failure Program :=
  .error (.syntaxError ⟨"Unexpected token", 0, ⟨1, 0⟩⟩)

/-- The whole is transformed. -/
theorem run_whole : (transform (front ++ back) source (.ofFunction reject) {}).2.map
    (fun r => (r.store.tokens.length, r.comments.length)) = .ok (3, 1) := by
  decide +kernel

end Halves

/-- The text and the comment are transformed by themselves, and so is the expression. -/
theorem transform_append_halves : ∃ result a b,
    (transform (Halves.front ++ Halves.back) Halves.source (.ofFunction Halves.reject) {}).2 =
        .ok result ∧
      (transform Halves.front Halves.source (.ofFunction Halves.reject) {}).2 = .ok a ∧
      (transform Halves.back Halves.source (.ofFunction Halves.reject) {}).2 = .ok b ∧
      result.store.tokens = a.store.tokens ++ b.store.tokens ∧ result.store.tokens.length = 3 ∧
      result.comments = a.comments ++ b.comments ∧ result.comments.length = 1 := by
  obtain ⟨result, hok, hsizes⟩ := except_map_eq_ok_iff.1 Halves.run_whole
  obtain ⟨htokens, hcomments⟩ := Prod.mk.inj hsizes
  obtain ⟨a, b, ha, hb, -, htokens', hcomments'⟩ := transform_append (by decide) hok
  exact ⟨result, a, b, hok, ha, hb, htokens', htokens, hcomments', hcomments⟩

end Template

end SingleFile
