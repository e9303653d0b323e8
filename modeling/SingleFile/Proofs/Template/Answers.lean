import SingleFile.Proofs.Template.Refusals

/-!
# Templates — texts and answers

An expression of a template is one text handed over, and what becomes of
the expression is the answer to that text: an error when the script reader
rejects it or returns a program that is no single expression, else a node
(`ScriptParser.Decides`). The transcript of a reading puts the texts in
the order of the expressions in the tree, so the texts that a transformer
hands over can be read off the tree it returns
(`Transformer.answers_of_start`).
-/

namespace SingleFile

/-- A program is one expression in parentheses that end with the text handed over: its only
statement is an expression statement that begins with them, and they hold one node. -/
def Program.IsExpression (p : Program) (size : Nat) : Prop :=
  ∃ statement group more node, p.body = [statement] ∧ statement.kind = "expression_statement" ∧
    statement.children = group :: more ∧ group.kind = "parenthesized_expression" ∧
    group.range.stop = size ∧ group.children = [node]

/-- **What becomes of a text**, handed over after so many others: an error when it is rejected
or when its program is no expression, and a node when its program is one. A rejection is kept
as it is. -/
structure ScriptParser.Decides (p : ScriptParser) (n : Nat) (text : Text)
    (outcome : Except SyntaxError ScriptNode) : Prop where
  error_iff : (∃ e, outcome = .error e) ↔ (∃ e, p n text = .error (.syntaxError e)) ∨
    ∃ program, p n text = .ok program ∧ ¬ program.IsExpression text.length
  ok_iff : (∃ node, outcome = .ok node) ↔
    ∃ program, p n text = .ok program ∧ program.IsExpression text.length
  error_eq : ∀ e, p n text = .error (.syntaxError e) → outcome = .error e

namespace Template

/-- The expression in a program is found when the program is one. -/
theorem isSome_unwrapped?_iff {p : Program} {size : Nat} :
    (unwrapped? p size).isSome = true ↔ p.IsExpression size := by
  constructor
  · intro h
    unfold unwrapped? at h
    split at h
    · rename_i statement hbody
      split at h
      · cases h
      · rename_i group more hchildren
        split at h
        · rename_i node hgroup
          split at h
          · rename_i hkinds
            obtain ⟨hstatement, hparentheses, hstop⟩ := hkinds
            exact ⟨statement, group, more, node, hbody, hstatement, hchildren, hparentheses, hstop,
              hgroup⟩
          · cases h
        · cases h
    · cases h
  · rintro ⟨statement, group, more, node, hbody, hstatement, hchildren, hparentheses, hstop, hgroup⟩
    simp [unwrapped?, hbody, hchildren, hgroup, hstatement, hparentheses, hstop]

namespace ExpressionReader

variable {r : ExpressionReader} {n k : Nat} {ps : List Part} {x : Delimited} {es : List Effect}
  {outcome : Except SyntaxError ScriptNode} {text : Text}

/-! ## Expressions -/

/-- The text of an expression that was read is what was handed over for it. -/
theorem texts_of_reading (h : x.reading r n = ⟨es, .ok outcome⟩) :
    (Effect.texts es).map some = [x.surrogate? r] := by
  obtain ⟨hadmits, text, htext⟩ := exists_surrogate_of_reading h
  have hread : r.read (x.code r.text).1 (x.code r.text).2 n = ⟨es, .ok outcome⟩ := h
  have htexts := texts_read (n := n) hadmits htext
  rw [hread] at htexts
  rw [htexts, htext]
  rfl

/-- **The answer to its text decides what becomes of it.** -/
theorem decides_of_reading (h : x.reading r n = ⟨es, .ok outcome⟩)
    (htext : x.surrogate? r = some text) : r.parser.Decides n text outcome := by
  obtain ⟨hadmits, -⟩ := exists_surrogate_of_reading h
  have hread : r.read (x.code r.text).1 (x.code r.text).2 n = ⟨es, .ok outcome⟩ := h
  rw [read_of_surrogate hadmits htext] at hread
  unfold verdict at hread
  cases hanswer : r.parser n text with
  | error f =>
    rw [hanswer] at hread
    cases f with
    | syntaxError e =>
      cases hread
      exact ⟨by simp [hanswer], by simp [hanswer], by simp [hanswer]⟩
    | breach _ | charOutside | markupUnavailable _ | scriptUnavailable _ | noTree _ => cases hread
  | ok program =>
    rw [hanswer] at hread
    have hexpression : (unwrapped? program text.length).isSome = true ↔
        program.IsExpression text.length := isSome_unwrapped?_iff
    cases hnode : unwrapped? program text.length with
    | none =>
      rw [hnode] at hexpression
      simp only [hnode] at hread
      cases hnot : notAnExpression program text with
      | error b =>
        rw [hnot] at hread
        cases hread
      | ok e =>
        rw [hnot] at hread
        cases hread
        have hno : ¬ program.IsExpression text.length := fun hyes => by cases hexpression.2 hyes
        exact ⟨by simp [hanswer, hno], by simp [hanswer, hno], by simp [hanswer]⟩
    | some node =>
      have hyes : program.IsExpression text.length := hexpression.1 (by rw [hnode]; rfl)
      simp only [hnode] at hread
      obtain ⟨node', rfl⟩ : ∃ node', outcome = .ok node' := by
        obtain ⟨node', -, hnode'⟩ := except_map_eq_ok_iff.1 (congrArg Emitted.result hread)
        exact ⟨node', hnode'.symm⟩
      exact ⟨by simp [hanswer, hyes], by simp [hanswer, hyes], by simp [hanswer]⟩

/-! ## Transcripts -/

/-- **The texts in a transcript** are those of its expressions, in their order. -/
theorem Transcribes.texts (h : r.Transcribes n ps) :
    (Effect.texts (Part.effectsAll ps)).map some =
      (Part.expressions ps).map (·.surrogate? r) := by
  induction ps generalizing n with
  | nil => rfl
  | cons p ps ih =>
    cases p with
    | markup e =>
      cases e with
      | asked text => exact absurd rfl (h.1 text)
      | token _ | comment _ | event _ => exact ih h.2
    | expression x es =>
      change (Effect.texts (es ++ Part.effectsAll ps)).map some =
        x.surrogate? r :: (Part.expressions ps).map (·.surrogate? r)
      rw [Effect.texts_append, List.map_append, texts_of_reading h.1, ih h.2]
      rfl

/-- **Each is decided by the answer to its own**, after as many others as come before it. -/
theorem Transcribes.decides (h : r.Transcribes n ps) (hx : (Part.expressions ps)[k]? = some x)
    (htext : x.surrogate? r = some text) : r.parser.Decides (n + k) text x.container.outcome := by
  induction ps generalizing n k with
  | nil => cases hx
  | cons p ps ih =>
    cases p with
    | markup e => exact ih h.2 hx
    | expression y es =>
      have hcons : (y :: Part.expressions ps)[k]? = some x := hx
      cases k with
      | zero =>
        rw [List.getElem?_cons_zero, Option.some.injEq] at hcons
        subst hcons
        exact decides_of_reading h.1 htext
      | succ k =>
        rw [List.getElem?_cons_succ] at hcons
        have hrest := ih h.2 hcons
        rwa [show n + 1 + k = n + (k + 1) by omega] at hrest

end ExpressionReader

/-! ## Transformations -/

namespace Transformer

variable {c : Context} {asked : List Text} {entries : List Markup.Entry} {result : Result}

/-- A fresh transformer hands over what its reading does, up to the first effect refused. -/
theorem asked_start (c : Context) (asked : List Text) (entries : List Markup.Entry) :
    ((start c asked).transform entries).1.ledger.asked =
      (Ledger.enterAll { asked := asked }
        (c.readDocument entries asked.length).effects).1.asked := by
  have hfst := Ledger.run_fst { asked := asked } (c.readDocument entries)
  unfold transform start
  dsimp only
  rw [if_neg (by decide), ← hfst]
  rcases Ledger.run { asked := asked } (c.readDocument entries) with ⟨ledger, e | root⟩ <;> rfl

/-- What was handed over before comes first, however a transformation ends. -/
theorem asked_prefix_start (c : Context) (asked : List Text) (entries : List Markup.Entry) :
    asked <+: ((start c asked).transform entries).1.ledger.asked := by
  rw [asked_start]
  exact Ledger.asked_prefix_enterAll { asked := asked } _

/-- One that returns has handed over all the texts that its reading does. -/
theorem asked_of_start (hok : ((start c asked).transform entries).2 = .ok result) :
    ((start c asked).transform entries).1.ledger.asked =
      asked ++ Effect.texts (c.readDocument entries asked.length).effects := by
  obtain ⟨-, hordered, -⟩ := transform_start_eq_ok_iff.1 hok
  rw [asked_start]
  exact (Ledger.enterAll_fst ((Ledger.enterAll_texts_eq_none_iff asked _).2 hordered)).2.2.2

/-- **Texts and answers of a transformation**: one text for each expression of the tree, in the
order of the tree, and the answer to it decides what becomes of the expression. -/
theorem answers_of_start (hc : c.Indexed)
    (hok : ((start c asked).transform entries).2 = .ok result) :
    ∃ texts, ((start c asked).transform entries).1.ledger.asked = asked ++ texts ∧
      texts.map some = (result.root.expressions c).map (·.surrogate? c.reader) ∧
      ∀ k x text, (result.root.expressions c)[k]? = some x → texts[k]? = some text →
        c.reader.parser.Decides (asked.length + k) text x.container.outcome := by
  obtain ⟨hresult, -⟩ := transform_start_eq_ok_iff.1 hok
  -- of the two readings only the first is of interest here, so that no text is refused
  obtain ⟨ps, root', htranscribes, heffects, -, hexpressions, -⟩ :=
    Context.revises_readDocument hc (fun _ => none) entries _ _ hresult
  rw [hexpressions]
  refine ⟨_, asked_of_start hok, ?_, fun k x text hx htext => ?_⟩
  · rw [heffects]
    exact htranscribes.texts
  · refine htranscribes.decides hx ?_
    have hat := congrArg (·[k]?) htranscribes.texts
    rw [heffects] at htext
    simp only [List.getElem?_map, hx, htext, Option.map_some, Option.some.injEq] at hat
    exact hat.symm

end Transformer

end Template

end SingleFile
