import SingleFile.Proofs.Expression.InPlace
import SingleFile.Proofs.Ledger
import SingleFile.Proofs.Settings.Delimiters
import SingleFile.Proofs.Template.Entries

/-!
# Replays — what pieces emit, and what a transformation returns

A token or a comment inside the source is emitted just where its piece
says. What a transformation of well-formed markup returns is then a
question about its list of pieces: its replay ends well, and the tokens
that it emits are in order.
-/

namespace SingleFile

namespace Template

variable {c : Context} {a b : Nat}

/-- A token inside the source is emitted where it stands. -/
theorem exists_emission_token (hc : c.Indexed) (kind : TokenKind)
    (h : (Piece.token kind a b).InText c.text) (n : Nat) :
    ∃ t, t.range.span = (a, b) ∧ (Piece.token kind a b).emission c n = ⟨[.token t], .ok ()⟩ := by
  obtain ⟨hab, hb⟩ := h
  obtain ⟨t, ht, hspan⟩ : ∃ t, Token.ofSource kind c.text c.reader.index a b none = .ok t ∧
      t.range.span = (a, b) := by
    unfold Token.ofSource
    rw [Range.ofBounds_natCast (Nat.le_of_lt hab), hc,
      LineIndex.location_ofText (Nat.le_trans (Nat.le_of_lt hab) hb) hb]
    exact ⟨_, rfl, rfl⟩
  have hemit : c.token kind a b = Emission.emit (.token t) := by
    unfold Context.token
    rw [if_pos (by omega)]
    simp only [ht, Emission.ofBreach_ok, pure_bind]
  exact ⟨t, hspan, congrFun hemit n⟩

/-- So is a comment. -/
theorem exists_emission_comment (hc : c.Indexed) (data : Text)
    (h : (Piece.comment data a b).InText c.text) (n : Nat) :
    ∃ x : Comment, x.place.range.span = (a, b) ∧
      (Piece.comment data a b).emission c n = ⟨[.comment x], .ok ()⟩ := by
  obtain ⟨hab, hb⟩ := h
  obtain ⟨p, hp, hspan⟩ : ∃ p : Place, c.place a b = pure p ∧
      p.range.span = (a, b) := by
    unfold Context.place
    rw [Range.ofBounds_natCast hab, hc, LineIndex.location_ofText (Nat.le_trans hab hb) hb]
    exact ⟨_, rfl, rfl⟩
  have hemit : c.readComment data ⟨a, b, 0, 0⟩ =
      Emission.emit (.comment ⟨p, .htmlComment, data⟩) := by
    unfold Context.readComment
    simp only [hp, pure_bind]
  exact ⟨_, hspan, congrFun hemit n⟩

/-- Pieces are replayed one after the other. -/
theorem replay_cons_apply {p : Piece} {ps : List Piece} {n : Nat} {es : List Effect}
    (h : p.emission c n = ⟨es, .ok ()⟩) :
    replay c (p :: ps) n = ⟨es ++ (replay c ps (n + Effect.asks es)).effects,
      (replay c ps (n + Effect.asks es)).result⟩ :=
  Emission.bind_apply_ok h _

/-- The code of a piece is admitted, and handed over behind a parenthesis. -/
theorem exists_surrogate (h : (Piece.code a b).InText c.text) :
    c.reader.Admits a b ∧ ∃ surrogate, c.reader.surrogate? a b = some surrogate := by
  obtain ⟨hab, hb, o, ho, d, hd, hterm⟩ := h
  refine ⟨⟨by omega, by omega, Int.ofNat_le.2 hb⟩, ?_⟩
  refine exists_wrapped _ ⟨d, ?_, hterm⟩
  rw [Int.toNat_natCast]
  exact List.mem_of_getElem? ((List.getElem?_take_of_lt ho).trans hd)

/-! ## Transformations -/

/-- What a transformation returns, by the reading that it runs. -/
theorem exists_transform_eq_ok_iff {entries : List Markup.Entry} {text : Text}
    {parser : ScriptParser} {settings : TemplateSettings} :
    (∃ result, (transform entries text parser settings).2 = .ok result) ↔
      ∃ root, (Ledger.run {} ((Context.ofSettings text parser settings
        transformerName).readDocument entries)).2 = .ok root := by
  unfold transform Transformer.transform Transformer.start
  dsimp only
  rw [if_neg (by decide)]
  rcases Ledger.run _ _ with ⟨ledger, e | root⟩ <;> simp

/-- A context is set up with its own source. -/
theorem indexed_ofSettings (text : Text) (parser : ScriptParser) (settings : TemplateSettings)
    (reporter : String) : (Context.ofSettings text parser settings reporter).Indexed := rfl

/-- Characters that end a line are white space. -/
theorem isWhiteSpace_of_isTerminator {d : Char} (h : Text.isTerminator d = true) :
    Text.isWhiteSpace d = true := by
  simp only [Text.isTerminator, Bool.or_eq_true, decide_eq_true_eq] at h
  rcases h with ((rfl | rfl) | rfl) | rfl <;> decide

/-- Checked settings give a delimiter that ends no line. -/
theorem opens_ofSettings {fields : List (Text × Value)} {settings : TemplateSettings}
    (h : TemplateSettings.ofFields fields = .ok settings) (text : Text) (parser : ScriptParser)
    (reporter : String) : (Context.ofSettings text parser settings reporter).Opens := by
  obtain ⟨d, hd, hwhite⟩ := TemplateSettings.head?_interpolationOpen h
  refine ⟨d, hd, Bool.eq_false_iff.2 fun hterm => ?_⟩
  rw [isWhiteSpace_of_isTerminator hterm] at hwhite
  cases hwhite

/-- **A transformation whose reading comes to some pieces** returns when their
replay ends well and its tokens are in order. -/
theorem exists_transform_eq_ok_iff_of_spells {entries : List Markup.Entry} {text : Text}
    {parser : ScriptParser} {settings : TemplateSettings} {ps : List Piece}
    (h : Spells (.ofSettings text parser settings transformerName)
      ((Context.ofSettings text parser settings transformerName).readDocument entries) ps) :
    (∃ result, (transform entries text parser settings).2 = .ok result) ↔
      (replay (.ofSettings text parser settings transformerName) ps 0).result = .ok () ∧
        (Effect.tokens (replay (.ofSettings text parser settings transformerName) ps
          0).effects).Pairwise Token.Before := by
  obtain ⟨heffects, hresult⟩ := h.apply_eq 0
  have hstore : (Ledger.enterAll {} (replay (.ofSettings text parser settings transformerName) ps
      0).effects).2 = none ↔ (Effect.tokens (replay (.ofSettings text parser settings
        transformerName) ps 0).effects).Pairwise Token.Before :=
    Ledger.enterAll_texts_eq_none_iff [] _
  rw [exists_transform_eq_ok_iff, ← hresult, ← hstore]
  simp only [Ledger.run_snd_eq_ok_iff, exists_and_right]
  rw [show ([] : List Text).length = 0 from rfl, heffects]

/-- **What such a transformation leaves behind** when it returns: all that the
replay emits, and the event that reports it. -/
theorem replay_of_transform_eq_ok {entries : List Markup.Entry} {text : Text}
    {parser : ScriptParser} {settings : TemplateSettings} {ps : List Piece} {t : Transformer}
    {result : Result} (hok : transform entries text parser settings = (t, .ok result))
    (h : Spells (.ofSettings text parser settings transformerName)
      ((Context.ofSettings text parser settings transformerName).readDocument entries) ps) :
    (replay (.ofSettings text parser settings transformerName) ps 0).result = .ok () ∧
      ∃ es, (replay (.ofSettings text parser settings transformerName) ps 0).effects = es ∧
        result.store.tokens = Effect.tokens es ∧ result.comments = Effect.comments es ∧
        t.ledger.asked = Effect.texts es ∧ ∃ tokens comments children, t.ledger.events =
          Effect.events es ++ [.templateTransformed transformerName tokens comments children] := by
  refine ⟨((exists_transform_eq_ok_iff_of_spells h).1 ⟨result, congrArg Prod.snd hok⟩).1, _, rfl, ?_⟩
  unfold transform Transformer.transform Transformer.start at hok
  dsimp only at hok
  rw [if_neg (by decide)] at hok
  rcases hrun : Ledger.run { asked := [] } ((Context.ofSettings text parser settings
    transformerName).readDocument entries) with ⟨ledger, e | root⟩
  · rw [hrun] at hok
    cases hok
  · -- sealing the store and reporting the transformation leave what was entered as it is
    rw [hrun] at hok
    cases hok
    have hsnd := Ledger.run_snd_eq_ok_iff.1 (congrArg Prod.snd hrun)
    have hfst := Ledger.run_fst { asked := [] } ((Context.ofSettings text parser settings
      transformerName).readDocument entries)
    rw [hrun] at hfst
    obtain ⟨htokens, hcomments, hevents, hasked⟩ := Ledger.enterAll_fst hsnd.2
    dsimp only at hfst
    rw [← hfst] at htokens hcomments hevents hasked
    have heffects : ((Context.ofSettings text parser settings transformerName).readDocument entries
        ([] : List Text).length).effects = _ := (h.apply_eq 0).1
    rw [heffects] at htokens hcomments hevents hasked
    exact ⟨htokens, hcomments, hasked, _, _, _, congrArg (· ++ [_]) hevents⟩

end Template

end SingleFile
