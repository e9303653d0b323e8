import SingleFile.Proofs.Template.Replay

/-!
# Rejected expressions — when a transformation returns

With a script reader that rejects whatever it is handed, expressions come
to no tokens, and nothing but the tokens of the markup can be out of
order. They are, exactly when a plain attribute without quotes ends in a
slash just before the bracket: the slash then goes to the value and to
the bracket.
-/

namespace SingleFile

/-- A script reader rejects every text. -/
def ScriptParser.Rejects (parser : ScriptParser) : Prop :=
  ∀ n text, ∃ e, parser n text = .error (.syntaxError e)

namespace Template

variable {c : Context}

/-- **Rejected code** is handed over and reported, and leaves no token. -/
theorem exists_emission_rejected (hreject : c.reader.parser.Rejects) {a b : Nat}
    (h : (Piece.code a b).InText c.text) (n : Nat) :
    ∃ text event, (Piece.code a b).emission c n = ⟨[.asked text, .event event], .ok ()⟩ := by
  obtain ⟨hadmits, surrogate, hsurrogate⟩ := exists_surrogate h
  obtain ⟨e, he⟩ := hreject n surrogate
  have hverdict : c.reader.verdict n surrogate = .ok (.error e) := by
    simp only [ExpressionReader.verdict, he]
  have hread := ExpressionReader.read_of_surrogate (n := n) hadmits hsurrogate
  rw [hverdict] at hread
  exact ⟨surrogate, _, Emission.bind_apply_ok hread _⟩

/-- **Pieces with rejected code** are replayed to the end, and the tokens stand
where the pieces say. -/
theorem replay_of_rejects (hc : c.Indexed) (hreject : c.reader.parser.Rejects)
    {ps : List Piece} (hps : ∀ p ∈ ps, p.InText c.text) (n : Nat) :
    (replay c ps n).result = .ok () ∧
      (Effect.tokens (replay c ps n).effects).map (·.range.span) = spans false ps := by
  induction ps generalizing n with
  | nil => exact ⟨rfl, rfl⟩
  | cons p ps ih =>
    obtain ⟨hp, hps⟩ := List.forall_mem_cons.1 hps
    have hstep : ∃ es, p.emission c n = ⟨es, .ok ()⟩ ∧
        (Effect.tokens es).map (·.range.span) = spans false [p] := by
      cases p with
      | token kind a b =>
        obtain ⟨t, hspan, hemit⟩ := exists_emission_token hc kind hp n
        exact ⟨_, hemit, congrArg (fun s => [s]) hspan⟩
      | comment data a b =>
        obtain ⟨x, -, hemit⟩ := exists_emission_comment hc data hp n
        exact ⟨_, hemit, rfl⟩
      | skipped name start => exact ⟨_, rfl, rfl⟩
      | code a b =>
        obtain ⟨text, event, hemit⟩ := exists_emission_rejected hreject hp n
        exact ⟨_, hemit, rfl⟩
    obtain ⟨es, hemit, htokens⟩ := hstep
    obtain ⟨hresult, hrest⟩ := ih hps (n + Effect.asks es)
    rw [replay_cons_apply hemit, Effect.tokens_append, List.map_append, htokens, hrest]
    exact ⟨hresult, (spans_append false [p] ps).symm⟩

/-- **When a transformation returns.** Over well-formed markup, with checked
settings and a script reader that rejects every expression, it returns a
result exactly when no plain attribute ends in the slash that the bracket
of its tag takes. -/
theorem transform_returns_iff {text : Text} {entries : List Markup.Entry} {parser : ScriptParser}
    {settings : TemplateSettings} {start stop : Nat}
    (hmarkup : Markup.WellFormed text (· ≤ ·) entries start stop)
    (hsettings : ∃ fields, TemplateSettings.ofFields fields = .ok settings)
    (hreject : parser.Rejects) :
    (∃ result, (transform entries text parser settings).2 = .ok result) ↔
      ∀ e ∈ Markup.elements entries, ∀ x, e.SlashEnded text x →
        (DirectiveRules.ofSettings settings).isDirective x.name = true := by
  obtain ⟨fields, hfields⟩ := hsettings
  have hc := indexed_ofSettings text parser settings transformerName
  -- only tokens count here, so whatever they leave out is free
  have hf : (Context.ofSettings text parser settings transformerName).Frees false fun _ => True :=
    ⟨fun _ _ _ _ => trivial, fun _ _ => trivial⟩
  obtain ⟨ps, hps, hlayout⟩ := Context.exists_spells_readDocument hc hf
    (opens_ofSettings hfields text parser transformerName)
    (fun a b hab => ⟨hab, fun _ _ _ => trivial⟩) hmarkup fun _ _ _ _ _ => trivial
  obtain ⟨hresult, htokens⟩ := replay_of_rejects hc hreject hlayout.inText 0
  have hpairwise : (Effect.tokens (replay (.ofSettings text parser settings transformerName) ps
      0).effects).Pairwise Token.Before ↔ (spans false ps).Pairwise fun a b => a.2 ≤ b.1 := by
    rw [← htokens, List.pairwise_map]
    rfl
  rw [exists_transform_eq_ok_iff_of_spells hps, and_iff_right hresult, hpairwise]
  constructor
  · intro hordered
    -- tokens in order hold no offset twice, but a clash is a slash held twice
    refine Classical.byContradiction fun hnot => ?_
    obtain ⟨o, -, hclash⟩ := hlayout.clash fun hapart =>
      hnot fun e he x hx => (hapart e he x hx).2
    have := countP_holds_le_one (o := o) (hordered.imp fun h => .inl h)
    omega
  · exact fun h => hlayout.apart fun e he x hx => ⟨rfl, h e he x hx⟩

/-! ## A slash with and without quotes -/

namespace SlashValue

/-- The reader that rejects everything. -/
def parser : ScriptParser := fun _ _ => .error (.syntaxError ⟨"Unexpected token", 0, ⟨1, 0⟩⟩)

/-- It does. -/
theorem rejects : parser.Rejects := fun _ _ => ⟨_, rfl⟩

/-- The settings that leave everything out pass their check. -/
theorem checked : ∃ fields, TemplateSettings.ofFields fields = .ok {} := ⟨[], rfl⟩

/-- The tag whose value ends in a slash between quotes, around an expression. -/
def quoted : Text := "<a b=\"c/\">{{d}}</a>".toList

/-- Its element. -/
def quotedElement : Markup.Element :=
  ⟨['a'], ⟨⟨0, 19, 1, 1⟩, some ⟨0, 10, 1, 1⟩, some ⟨15, 19, 1, 16⟩⟩,
    [⟨['b'], ['c', '/'], ⟨3, 9, 1, 4⟩⟩], [.text ⟨10, 15, 1, 11⟩], none⟩

/-- Its start tag, with a bracket of one character. -/
theorem quoted_startTag :
    Markup.StartTagAt quoted quotedElement.attributes 0 2 9 9 10 where
  opens := rfl
  size := by decide
  name := by decide
  attributes := .cons rfl rfl (by decide) (by decide)
    (.assigned (by decide) (by decide) (Nat.le_refl 4) (by decide) rfl (Nat.le_refl 5)
      (by decide) (.quoted (.inl rfl) (by decide) rfl rfl)) (.nil 9)
  before := by decide
  blank := by decide
  closes := .inl ⟨rfl, rfl⟩

/-- The markup around it is well-formed. -/
theorem quoted_wellFormed :
    Markup.WellFormed quoted (· ≤ ·) [quotedElement.entry] 0 19 where
  laid := by
    have hend : Markup.EndTagAt quoted 15 18 19 :=
      ⟨rfl, rfl, by decide, by decide, by decide, by decide, rfl⟩
    simp only [Markup.Element.entry, Markup.Laid, Markup.Entry.SpannedBy]
    exact ⟨0, 19, by decide, ⟨10, 15, ⟨rfl, rfl, rfl, 2, 9, 9, quoted_startTag⟩,
      ⟨10, 15, by decide, ⟨rfl, rfl, by decide⟩, Nat.le_refl 15⟩, rfl, rfl, rfl, 18, hend⟩,
      Nat.le_refl 19⟩
  inside := by decide

/-- The same value without quotes, just before the bracket. -/
def bare : Text := "<a b=c/>".toList

/-- Its element. -/
def bareElement : Markup.Element :=
  ⟨['a'], ⟨⟨0, 8, 1, 1⟩, some ⟨0, 8, 1, 1⟩, none⟩, [⟨['b'], ['c', '/'], ⟨3, 7, 1, 4⟩⟩], [], none⟩

/-- Its start tag: the value goes on up to the bracket. -/
theorem bare_startTag :
    Markup.StartTagAt bare bareElement.attributes 0 2 7 7 8 where
  opens := rfl
  size := by decide
  name := by decide
  attributes := .cons rfl rfl (by decide) (by decide)
    (.assigned (by decide) (by decide) (Nat.le_refl 4) (by decide) rfl (Nat.le_refl 5)
      (by decide) (.bare (by decide) (by decide))) (.nil 7)
  before := by decide
  blank := by decide
  closes := .inl ⟨rfl, rfl⟩

/-- The markup is well-formed all the same. -/
theorem bare_wellFormed : Markup.WellFormed bare (· ≤ ·) [bareElement.entry] 0 8 where
  laid := by
    simp only [Markup.Element.entry, Markup.Laid, Markup.Entry.SpannedBy]
    exact ⟨0, 8, by decide, ⟨8, 8, ⟨rfl, rfl, rfl, 2, 7, 7, bare_startTag⟩, Nat.le_refl 8, rfl, rfl⟩,
      Nat.le_refl 8⟩
  inside := by decide

end SlashValue

/-- Between quotes the slash is the value's alone, and a result is returned. -/
theorem transform_returns_quoted :
    ∃ result, (transform [SlashValue.quotedElement.entry] SlashValue.quoted SlashValue.parser
      {}).2 = .ok result := by
  refine (transform_returns_iff SlashValue.quoted_wellFormed SlashValue.checked
    SlashValue.rejects).2 fun e he x hx => ?_
  obtain rfl : e = SlashValue.quotedElement := by
    simpa [Markup.elements, Markup.walkAll, Markup.Entry.walk, Markup.Entry.element?,
      Markup.Element.entry, SlashValue.quotedElement] using he
  obtain ⟨hlast, -, hslash⟩ := hx
  cases hlast
  exact absurd hslash (by decide)

/-- **Not every well-formed markup is transformed**: without quotes the value
and the bracket overlap in the slash. -/
theorem slash_value_not_transformed :
    ¬ ∀ (text : Text) (entries : List Markup.Entry) (parser : ScriptParser)
        (settings : TemplateSettings) (start stop : Nat),
      Markup.WellFormed text (· ≤ ·) entries start stop →
        (∃ fields, TemplateSettings.ofFields fields = .ok settings) →
          parser.Rejects →
            ∃ result, (transform entries text parser settings).2 = .ok result := by
  intro h
  obtain ⟨result, hok⟩ := h _ _ _ _ _ _ SlashValue.bare_wellFormed SlashValue.checked
    SlashValue.rejects
  have hfails : (transform [SlashValue.bareElement.entry] SlashValue.bare SlashValue.parser
      {}).2.toOption.isNone = true := by decide +kernel
  rw [hok] at hfails
  cases hfails

end Template

end SingleFile
