import SingleFile.Proofs.Expression.Claims
import SingleFile.Proofs.Template.Replay

/-!
# Coverage — what a transformed template claims of its source

Over markup that leaves nothing out, the tokens, the comments and the
rejected expressions of a transformed template together claim all of the
source but blanks, skipped entries and references that stand for nothing
else. No offset is claimed twice exactly when no value ends in the slash
that the bracket of its tag takes, and no reference is divided between
two parts of an expression.
-/

namespace SingleFile

/-- **A script reader accounts for the code of a source** that it accepts. -/
def ScriptParser.Tiles (parser : ScriptParser) (text : Text) : Prop :=
  ∀ (n first last : Nat) (surrogate : Text) (program : Program),
    0 < first → first ≤ last → last ≤ text.length →
      Template.wrapped? (text.take first) (Decoded.ofText (text.slice first last)).text =
        some surrogate →
      parser n surrogate = .ok program →
        program.Tiles first (Decoded.ofText (text.slice first last)).text

namespace Template

variable {c : Context}

/-- The codes that some pieces read. -/
def codes (ps : List Piece) : List (Nat × Nat) := ps.filterMap Piece.code?

/-! ## The claims of a piece -/

/-- **What a piece claims**: nothing outside its span, all of it but what is
silent, and nothing twice unless a reference is divided. -/
structure PieceClaims (c : Context) (n : Nat) (p : Piece) (es : List Effect) : Prop where
  within : ∀ x ∈ claims es, ∃ s, p.span? true = some s ∧ s.1 ≤ x.1 ∧ x.2 ≤ s.2
  apart : (claims es).Pairwise Apart ↔ ∀ a b, p.code? = some (a, b) → c.reader.Undivided n a b
  covered : ∀ s, p.span? true = some s → ∀ o, holds o s = true →
    (∃ x ∈ claims es, holds o x = true) ∨
      (p.code? = some s ∧ (c.reader.code s.1 s.2).Silent (o - s.1))
  texts : List.Forall₂ (fun code text => c.reader.surrogate? code.1 code.2 = some text)
    p.code?.toList (Effect.texts es)

/-- A piece that is no code claims its span. -/
theorem pieceClaims_of_span {n : Nat} {p : Piece} {es : List Effect} {s : Nat × Nat}
    (hs : p.span? true = some s) (hcode : p.code? = none) (hclaims : claims es = [s])
    (htexts : Effect.texts es = []) : PieceClaims c n p es where
  within x hx := by
    rw [hclaims, List.mem_singleton] at hx
    exact ⟨s, hs, hx ▸ ⟨Nat.le_refl _, Nat.le_refl _⟩⟩
  apart := by
    rw [hclaims, hcode]
    exact iff_of_true (List.pairwise_singleton _ _) fun a b hab => by cases hab
  covered s' hs' o ho := by
    rw [hs, Option.some.injEq] at hs'
    exact .inl ⟨s', by rw [hclaims, hs']; exact List.mem_singleton.2 rfl, ho⟩
  texts := by
    rw [hcode, htexts]
    exact .nil

/-- What code claims, of which one text is handed over. -/
theorem pieceClaims_of_code (htiles : c.reader.parser.Tiles c.text) {a b n : Nat}
    (hp : (Piece.code a b).InText c.text) (hok : ((Piece.code a b).emission c n).result = .ok ()) :
    PieceClaims c n (.code a b) ((Piece.code a b).emission c n).effects := by
  obtain ⟨hadmits, surrogate, hsurrogate⟩ := exists_surrogate hp
  have hread : (Piece.code a b).emission c n =
      ⟨(c.reader.read a b n).effects, (c.reader.read a b n).result.map fun _ => ()⟩ :=
    Emission.bind_pure_apply _ _ _
  rw [hread] at hok ⊢
  obtain ⟨v, hv⟩ : ∃ v, (c.reader.read a b n).result = .ok v := by
    cases h : (c.reader.read a b n).result with
    | error e => simp [h, Except.map] at hok
    | ok v => exact ⟨v, rfl⟩
  have hprogram : ∀ program, c.reader.parser n surrogate = .ok program →
      program.Tiles a (c.reader.code a b).text := fun program hanswer =>
    htiles n a b surrogate program (by have := hadmits.1; omega) hp.1 hp.2.1
      (by rw [← Int.toNat_natCast a]; exact hsurrogate) hanswer
  have hclaims := ExpressionReader.codeClaims_of_ok hadmits hsurrogate hprogram hv
  refine ⟨fun x hx => ⟨(a, b), rfl, hclaims.within x hx⟩, hclaims.apart.trans ?_, ?_, ?_⟩
  · constructor
    · intro h a' b' hab
      cases hab
      exact h
    · exact fun h => h a b rfl
  · rintro s hs o ho
    cases hs
    rw [holds_eq_true] at ho
    exact (hclaims.covered o ho.1 ho.2).symm.imp_right fun h => ⟨rfl, h⟩
  · rw [ExpressionReader.texts_read hadmits hsurrogate]
    exact .cons hsurrogate .nil

/-- **What the pieces of a reading claim.** -/
theorem pieceClaims_of_ok (hc : c.Indexed) (htiles : c.reader.parser.Tiles c.text) {p : Piece}
    (hp : p.InText c.text) {n : Nat} (hok : (p.emission c n).result = .ok ()) :
    PieceClaims c n p (p.emission c n).effects := by
  cases p with
  | token kind a b =>
    obtain ⟨t, hspan, hemit⟩ := exists_emission_token hc kind hp n
    rw [hemit]
    exact pieceClaims_of_span rfl rfl (congrArg (fun s => [s]) hspan) rfl
  | comment data a b =>
    obtain ⟨x, hspan, hemit⟩ := exists_emission_comment hc data hp n
    rw [hemit]
    exact pieceClaims_of_span rfl rfl (congrArg (fun s => [s]) hspan) rfl
  | skipped name start =>
    refine ⟨fun x hx => absurd hx List.not_mem_nil, iff_of_true .nil fun a b hab => ?_,
      fun s hs => ?_, .nil⟩
    · cases hab
    · cases hs
  | code a b => exact pieceClaims_of_code htiles hp hok

/-- A slash in the span of a piece is claimed. -/
theorem PieceClaims.holds_slash {n : Nat} {p : Piece} {es : List Effect}
    (h : PieceClaims c n p es) (hp : p.InText c.text) {s : Nat × Nat} (hs : p.span? true = some s)
    {o : Nat} (ho : holds o s = true) (hslash : c.text[o]? = some '/') :
    ∃ x ∈ claims es, holds o x = true := by
  rcases h.covered s hs o ho with hheld | ⟨hcode, hsilent⟩
  · exact hheld
  · cases p with
    | code a b =>
      cases hcode
      rw [holds_eq_true] at ho
      refine absurd hsilent (Decoded.not_silent_of_slash ?_)
      rw [← hslash, show o = a + (o - a) by omega, Nat.add_sub_cancel_left]
      exact Text.getElem?_slice hp.2.1 hp.1 (by omega)
    | _ => cases hcode

/-! ## The claims of several pieces -/

/-- **What pieces claim together.** -/
structure ReplayClaims (c : Context) (n : Nat) (ps : List Piece) (es : List Effect) : Prop where
  within : ∀ x ∈ claims es, ∃ s ∈ spans true ps, s.1 ≤ x.1 ∧ x.2 ≤ s.2
  apart : (spans true ps).Pairwise (fun a b => a.2 ≤ b.1) →
    ((claims es).Pairwise Apart ↔
      ∀ k a b, (codes ps)[k]? = some (a, b) → c.reader.Undivided (n + k) a b)
  covered : ∀ s ∈ spans true ps, ∀ o, holds o s = true →
    (∃ x ∈ claims es, holds o x = true) ∨
      (s ∈ codes ps ∧ (c.reader.code s.1 s.2).Silent (o - s.1))
  slashes : ∀ o, c.text[o]? = some '/' →
    (spans true ps).countP (holds o) ≤ (claims es).countP (holds o)
  texts : List.Forall₂ (fun code text => c.reader.surrogate? code.1 code.2 = some text) (codes ps)
    (Effect.texts es)

/-- The codes that are read of one piece and of more: the ones of `more` come
after as many texts as the first was asked. -/
theorem forall_codes_iff {p : Piece} {ps : List Piece} {n m : Nat} {U : Nat → Nat → Nat → Prop}
    (hm : p.code?.toList.length = m) :
    (∀ k a b, (codes (p :: ps))[k]? = some (a, b) → U (n + k) a b) ↔
      (∀ a b, p.code? = some (a, b) → U n a b) ∧
        ∀ k a b, (codes ps)[k]? = some (a, b) → U (n + m + k) a b := by
  cases hp : p.code? with
  | none =>
    rw [hp] at hm
    subst hm
    simp [codes, hp]
  | some code =>
    obtain rfl : m = 1 := by
      rw [hp] at hm
      exact hm.symm
    obtain ⟨a₀, b₀⟩ := code
    simp only [codes, List.filterMap_cons_some hp]
    constructor
    · refine fun h => ⟨fun a b hab => ?_, fun k a b hab => ?_⟩
      · exact h 0 a b hab
      · rw [show n + 1 + k = n + (k + 1) by omega]
        exact h (k + 1) a b hab
    · rintro ⟨hfirst, hrest⟩ k a b hab
      cases k with
      | zero => exact hfirst a b hab
      | succ k =>
        rw [show n + (k + 1) = n + 1 + k by omega]
        exact hrest k a b hab

/-- The spans of one piece and of more. -/
theorem spans_cons (wide : Bool) (p : Piece) (ps : List Piece) :
    spans wide (p :: ps) = (p.span? wide).toList ++ spans wide ps := by
  cases hs : p.span? wide <;> simp [spans, hs]

/-- The codes of one piece and of more. -/
theorem codes_cons (p : Piece) (ps : List Piece) :
    codes (p :: ps) = p.code?.toList ++ codes ps := by
  cases hs : p.code? <;> simp [codes, hs]

/-- A piece claims a slash as often as its span holds it, at least. -/
theorem PieceClaims.countP_le {n : Nat} {p : Piece} {es : List Effect}
    (h : PieceClaims c n p es) (hp : p.InText c.text) {o : Nat} (hslash : c.text[o]? = some '/') :
    (p.span? true).toList.countP (holds o) ≤ (claims es).countP (holds o) := by
  cases hs : p.span? true with
  | none => exact Nat.zero_le _
  | some s =>
    by_cases ho : holds o s = true
    · have hpos := List.countP_pos_iff.2 (h.holds_slash hp hs ho hslash)
      have hone : [s].countP (holds o) ≤ 1 := List.countP_le_length
      exact Nat.le_trans hone hpos
    · simp [ho]

/-- One more piece in front. -/
theorem PieceClaims.cons {n : Nat} {p : Piece} {ps : List Piece} {es fs : List Effect}
    (hp : p.InText c.text) (h : PieceClaims c n p es)
    (h' : ReplayClaims c (n + Effect.asks es) ps fs) : ReplayClaims c n (p :: ps) (es ++ fs) where
  within x hx := by
    rw [spans_cons]
    rcases List.mem_append.1 (claims_append es fs ▸ hx) with hx | hx
    · obtain ⟨s, hs, hin⟩ := h.within x hx
      exact ⟨s, List.mem_append_left _ (Option.mem_toList.2 hs), hin⟩
    · obtain ⟨s, hs, hin⟩ := h'.within x hx
      exact ⟨s, List.mem_append_right _ hs, hin⟩
  apart hpair := by
    have hasks : p.code?.toList.length = Effect.asks es :=
      h.texts.length_eq.trans (Effect.length_texts es)
    rw [spans_cons] at hpair
    obtain ⟨-, hrest, hcross⟩ := List.pairwise_append.1 hpair
    rw [claims_append, List.pairwise_append, h.apart, h'.apart hrest, forall_codes_iff hasks]
    refine and_congr_right fun _ => and_iff_left fun x hx y hy => ?_
    -- the claims of different pieces lie in spans that follow one another
    obtain ⟨s, hs, hx1, hx2⟩ := h.within x hx
    obtain ⟨s', hs', hy1, hy2⟩ := h'.within y hy
    have := hcross s (Option.mem_toList.2 hs) s' hs'
    exact .inl (by omega)
  covered s hs o ho := by
    rw [claims_append, codes_cons]
    rcases List.mem_append.1 (spans_cons true p ps ▸ hs) with hs | hs
    · rcases h.covered s (Option.mem_toList.1 hs) o ho with ⟨x, hx, hheld⟩ | ⟨hcode, hsilent⟩
      · exact .inl ⟨x, List.mem_append_left _ hx, hheld⟩
      · exact .inr ⟨List.mem_append_left _ (Option.mem_toList.2 hcode), hsilent⟩
    · rcases h'.covered s hs o ho with ⟨x, hx, hheld⟩ | ⟨hcode, hsilent⟩
      · exact .inl ⟨x, List.mem_append_right _ hx, hheld⟩
      · exact .inr ⟨List.mem_append_right _ hcode, hsilent⟩
  slashes o hslash := by
    rw [spans_cons, claims_append, List.countP_append, List.countP_append]
    exact Nat.add_le_add (h.countP_le hp hslash) (h'.slashes o hslash)
  texts := by
    have htexts : Effect.texts (es ++ fs) = Effect.texts es ++ Effect.texts fs :=
      List.filterMap_append
    rw [codes_cons, htexts]
    exact List.rel_append h.texts h'.texts

/-- **What a replay claims**, when it ends well. -/
theorem replayClaims_of_ok (hc : c.Indexed) (htiles : c.reader.parser.Tiles c.text)
    {ps : List Piece} (hps : ∀ p ∈ ps, p.InText c.text) {n : Nat}
    (hok : (replay c ps n).result = .ok ()) : ReplayClaims c n ps (replay c ps n).effects := by
  induction ps generalizing n with
  | nil =>
    refine ⟨fun x hx => absurd hx List.not_mem_nil, fun _ => iff_of_true .nil fun k a b hab => ?_,
      fun s hs => absurd hs List.not_mem_nil, fun _ _ => Nat.zero_le _, .nil⟩
    cases hab
  | cons p ps ih =>
    obtain ⟨hp, hps⟩ := List.forall_mem_cons.1 hps
    obtain ⟨⟨⟩, hfirst, hrest⟩ := Emission.result_bind_eq_ok_iff.1 hok
    have hemit : p.emission c n = ⟨(p.emission c n).effects, .ok ()⟩ := by rw [← hfirst]
    rw [replay_cons_apply hemit]
    exact (pieceClaims_of_ok hc htiles hp hfirst).cons hp (ih hps hrest)

/-- **What pieces claim apart.** The claims of pieces in a layout are apart when
nothing in the layout clashes and no reference is divided. -/
theorem ReplayClaims.pairwise_iff {free : Nat → Prop} {start stop n : Nat} {fits : Prop}
    {ps : List Piece} {es : List Effect} (h : ReplayClaims c n ps es)
    (hlayout : Layout true c.text free start stop fits ps) :
    (claims es).Pairwise Apart ↔
      fits ∧ ∀ k a b, (codes ps)[k]? = some (a, b) → c.reader.Undivided (n + k) a b := by
  constructor
  · intro hapart
    have hfits : fits := by
      -- a slash in two spans would be claimed twice, as no piece leaves a slash out
      refine Classical.byContradiction fun hnot => ?_
      obtain ⟨o, ho, hclash⟩ := hlayout.clash hnot
      have h1 := h.slashes o ho
      have h2 := countP_holds_le_one (o := o) hapart
      omega
    exact ⟨hfits, (h.apart (hlayout.apart hfits)).1 hapart⟩
  · rintro ⟨hfits, hundivided⟩
    exact (h.apart (hlayout.apart hfits)).2 hundivided

/-- **What pieces leave out** of a layout: what is free there, and what is silent
in some code. -/
theorem ReplayClaims.covered_of_layout {free : Nat → Prop} {start stop n : Nat} {fits : Prop}
    {ps : List Piece} {es : List Effect} (h : ReplayClaims c n ps es)
    (hlayout : Layout true c.text free start stop fits ps) {o : Nat} (h1 : start ≤ o)
    (h2 : o < stop) :
    (∃ s ∈ claims es, holds o s = true) ∨ free o ∨
      ∃ code ∈ codes ps, holds o code = true ∧
        (c.reader.code code.1 code.2).Silent (o - code.1) := by
  rcases hlayout.covered o h1 h2 with hfree | ⟨s, hs, ho⟩
  · exact .inr (.inl hfree)
  · rcases h.covered s hs o ho with hheld | ⟨hcode, hsilent⟩
    · exact .inl hheld
    · exact .inr (.inr ⟨s, hcode, ho, hsilent⟩)

/-! ## The claims of a transformed template -/

/-- **What a transformed template claims** of its source: the ranges of its
tokens and of its comments, and the code of each rejected expression. -/
def Transformer.claims (t : Transformer) (result : Result) : List (Nat × Nat) :=
  result.store.tokens.map (·.range.span) ++
    (result.comments.map (·.place.range.span) ++ t.ledger.events.filterMap Event.rejected?)

/-- They are the claims of what its reading emits. -/
theorem Transformer.claims_perm {t : Transformer} {result : Result} {es : List Effect} {e : Event}
    (htokens : result.store.tokens = Effect.tokens es)
    (hcomments : result.comments = Effect.comments es)
    (hevents : t.ledger.events = Effect.events es ++ [e]) (he : e.rejected? = none) :
    (Template.claims es).Perm (t.claims result) := by
  have hrejected : t.ledger.events.filterMap Event.rejected? =
      (Effect.events es).filterMap Event.rejected? := by
    rw [hevents, List.filterMap_append, List.filterMap_cons_none he]
    exact List.append_nil _
  rw [Transformer.claims, htokens, hcomments, hrejected]
  exact Template.claims_perm es

/-- **All source is claimed, and nothing twice but for two reasons.** Over
markup that leaves nothing out, with checked settings and a script reader
that accounts for the code it accepts, a transformation that returns has
read some codes, one for each text handed over. Every offset of the
markup is claimed, or blank, or in a skipped entry, or at a place in one
of the codes that stands for nothing but blanks. And the claims are apart
exactly when no value ends in the slash that the bracket of its tag
takes, and no reference is divided between two parts of an accepted
program. -/
theorem claims_of_transform {text : Text} {entries : List Markup.Entry} {parser : ScriptParser}
    {settings : TemplateSettings} {start stop : Nat} {t : Transformer} {result : Result}
    (hmarkup : Markup.WellFormed text (· = ·) entries start stop)
    (hsettings : ∃ fields, TemplateSettings.ofFields fields = .ok settings)
    (htiles : parser.Tiles text)
    (hok : transform entries text parser settings = (t, .ok result)) :
    ∃ codes : List (Nat × Nat),
      List.Forall₂ (fun code asked => (ExpressionReader.ofText text parser
        transformerName).surrogate? code.1 code.2 = some asked) codes t.ledger.asked ∧
      (∀ o, start ≤ o → o < stop →
        (∃ s ∈ t.claims result, holds o s = true) ∨
          (∃ d, text[o]? = some d ∧ Text.isBlank d = true) ∨
          (∃ m ∈ Markup.skipped entries, m.start ≤ o ∧ o < m.stop) ∨
          ∃ code ∈ codes, holds o code = true ∧
            (Decoded.ofText (text.slice code.1 code.2)).Silent (o - code.1)) ∧
      ((t.claims result).Pairwise Apart ↔
        (∀ e ∈ Markup.elements entries, ∀ x, ¬ e.SlashEnded text x) ∧
          ∀ k a b, codes[k]? = some (a, b) →
            (ExpressionReader.ofText text parser transformerName).Undivided k a b) := by
  obtain ⟨fields, hfields⟩ := hsettings
  have hc := indexed_ofSettings text parser settings transformerName
  -- all but blanks and skipped entries has to be claimed by some piece
  have hf : (Context.ofSettings text parser settings transformerName).Frees true fun o =>
      (∃ d, text[o]? = some d ∧ Text.isBlank d = true) ∨
        ∃ m ∈ Markup.skipped entries, m.start ≤ o ∧ o < m.stop :=
    ⟨fun o d hd hblank => .inl ⟨d, hd, hblank⟩, fun hwide => by cases hwide⟩
  obtain ⟨ps, hps, hlayout⟩ := Context.exists_spells_readDocument hc hf
    (opens_ofSettings hfields text parser transformerName)
    (fun a b hab => ⟨Nat.le_of_eq hab, fun o h1 h2 => by omega⟩) hmarkup
    fun m hm o h1 h2 => .inr ⟨m, hm, h1, h2⟩
  obtain ⟨hreplay, es, hes, htokens, hcomments, hasked, _, _, _, hevents⟩ :=
    replay_of_transform_eq_ok hok hps
  have hclaims := replayClaims_of_ok hc htiles hlayout.inText hreplay
  rw [hes] at hclaims
  have hperm := Transformer.claims_perm htokens hcomments hevents rfl
  refine ⟨codes ps, hasked ▸ hclaims.texts, fun o h1 h2 => ?_, ?_⟩
  · rcases hclaims.covered_of_layout hlayout h1 h2 with ⟨s, hs, hheld⟩ | hfree | hsilent
    · exact .inl ⟨s, hperm.mem_iff.1 hs, hheld⟩
    · exact .inr (hfree.imp_right .inl)
    · exact .inr (.inr (.inr hsilent))
  · have hfits : (∀ e ∈ Markup.elements entries, (Context.ofSettings text parser settings
        transformerName).Fits true e) ↔
        ∀ e ∈ Markup.elements entries, ∀ x, ¬ e.SlashEnded text x :=
      forall₂_congr fun e _ => forall_congr' fun x => imp_congr_right fun _ => by simp
    rw [← hperm.pairwise_iff Apart.symm, hclaims.pairwise_iff hlayout, hfits]
    simp only [Nat.zero_add]
    rfl

/-! ## Readers that accept one text -/

namespace OneText

/-- The reader that accepts one text with a program and rejects all others. -/
def parser (accepted : Text) (program : Program) : ScriptParser := fun _ text =>
  if text = accepted then .ok program
  else .error (.syntaxError ⟨"Unexpected token", 0, ⟨1, 0⟩⟩)

/-- It accounts for all code that it accepts if its program accounts for the one
code that the text comes from. -/
theorem tiles {text accepted : Text} {program : Program} (start : Nat) (code : Text)
    (hprogram : program.Tiles start code)
    (hcode : ∀ first ≤ text.length, ∀ last ≤ text.length,
      wrapped? (text.take first) (Decoded.ofText (text.slice first last)).text = some accepted →
        first = start ∧ (Decoded.ofText (text.slice first last)).text = code) :
    (parser accepted program).Tiles text := by
  intro n first last surrogate program' _ hle hlast hs hp
  unfold parser at hp
  split at hp
  · rename_i heq
    cases hp
    obtain ⟨rfl, hc⟩ := hcode first (Nat.le_trans hle hlast) last hlast (heq ▸ hs)
    exact hc ▸ hprogram
  · cases hp

/-- What it answers is its program. -/
theorem eq_of_answer {accepted text : Text} {program answer : Program} {n : Nat}
    (h : parser accepted program n text = .ok answer) : answer = program := by
  unfold parser at h
  split at h
  · exact (Except.ok.inj h).symm
  · cases h

/-- A place on the first line. -/
def location (start stop : Int) : Location := ⟨⟨1, start⟩, ⟨1, stop⟩⟩

/-- A delimiter of one character. -/
def delimiter (c : Char) (start : Nat) : Token :=
  ⟨.punctuator, [c], [c], ⟨start, start + 1, by omega⟩, location start (start + 1)⟩

/-- A name of one character in parentheses that begin at an offset and end at
another, and the comments there. -/
def program (c : Char) (start stop : Nat) (comments : List Token) (h : start ≤ stop) : Program :=
  let name : Token := ⟨.identifier, [c], [c], ⟨start + 1, start + 2, by omega⟩,
    location (start + 1) (start + 2)⟩
  let node : ScriptNode := ⟨"identifier", name.range, name.location, [c], []⟩
  let group : ScriptNode :=
    ⟨"parenthesized_expression", ⟨start, stop, h⟩, location start stop, [], [node]⟩
  { body := [⟨"expression_statement", group.range, group.location, [], [group]⟩]
    tokens := [delimiter '(' start, name, delimiter ')' (stop - 1)]
    comments := comments
    range := ⟨0, stop, by omega⟩ }

end OneText

/-! ## An interpolation -/

namespace Interpolation

/-- A paragraph around an interpolation. -/
def text : Text := "<p>\x7b\x7ba\x7d\x7d</p>".toList

/-- Its element. -/
def element : Markup.Element :=
  ⟨['p'], ⟨⟨0, 12, 1, 1⟩, some ⟨0, 3, 1, 1⟩, some ⟨8, 12, 1, 9⟩⟩, [], [.text ⟨3, 8, 1, 4⟩], none⟩

theorem wellFormed : Markup.WellFormed text (· = ·) [element.entry] 0 12 where
  laid := by
    have hstart : Markup.StartTagAt text element.attributes 0 2 2 2 3 :=
      ⟨rfl, by decide, by decide, .nil 2, by decide, by decide, .inl ⟨rfl, rfl⟩⟩
    have hend : Markup.EndTagAt text 8 11 12 :=
      ⟨rfl, rfl, by decide, by decide, by decide, by decide, rfl⟩
    simp only [Markup.Element.entry, Markup.Laid, Markup.Entry.SpannedBy]
    exact ⟨0, 12, rfl, ⟨3, 8, ⟨rfl, rfl, rfl, 2, 2, 2, hstart⟩,
      ⟨3, 8, rfl, ⟨rfl, rfl, by decide⟩, rfl⟩, rfl, rfl, rfl, 11, hend⟩, rfl⟩
  inside := by decide

/-- What a script reader answers to the name in parentheses. -/
def program : Program := OneText.program 'a' 4 7 [] (by omega)

/-- The reader that answers so. -/
def parser : ScriptParser := OneText.parser "    (a)".toList program

theorem tiles : parser.Tiles text := by
  refine OneText.tiles 5 ['a'] ⟨by decide, by decide, by decide, ?_⟩ ?_
  · intro i d hd _
    have hi : i < 1 := (List.getElem?_eq_some_iff.1 hd).1
    obtain rfl : i = 0 := by omega
    decide
  · decide +kernel

end Interpolation

/-- The claims of the interpolation and the tags around it are apart. -/
theorem claims_of_interpolation :
    ∃ t result, transform [Interpolation.element.entry] Interpolation.text Interpolation.parser {} =
      (t, .ok result) ∧ (t.claims result).Pairwise Apart := by
  have hreturns : (transform [Interpolation.element.entry] Interpolation.text Interpolation.parser
      {}).2.toOption.isSome = true := by decide +kernel
  rcases htransform : transform [Interpolation.element.entry] Interpolation.text
    Interpolation.parser {} with ⟨t, e | result⟩
  · rw [htransform] at hreturns
    cases hreturns
  · obtain ⟨codes, -, -, hapart⟩ := claims_of_transform Interpolation.wellFormed ⟨[], rfl⟩
      Interpolation.tiles htransform
    refine ⟨t, result, rfl, hapart.2 ⟨fun e he x hx => ?_, fun k a b _ => ?_⟩⟩
    · obtain rfl : e = Interpolation.element := by
        simpa [Markup.elements, Markup.walkAll, Markup.Entry.walk, Markup.Entry.element?,
          Markup.Element.entry, Interpolation.element] using he
      cases hx.1
    · intro surrogate program node _ hv
      rw [OneText.eq_of_answer (n := k) (ExpressionReader.parser_of_verdict hv)]
      exact List.pairwise_singleton _ _

/-! ## A comment that ends in a slash -/

namespace SlashComment

/-- A tag whose value, a directive's, ends in a comment just before the bracket. -/
def text : Text := "<a :b=c//>".toList

/-- Its element. -/
def element : Markup.Element :=
  ⟨['a'], ⟨⟨0, 10, 1, 1⟩, some ⟨0, 10, 1, 1⟩, none⟩, [⟨[':', 'b'], ['c', '/', '/'], ⟨3, 9, 1, 4⟩⟩],
    [], none⟩

theorem startTag : Markup.StartTagAt text element.attributes 0 2 9 9 10 where
  opens := rfl
  size := by decide
  name := by decide
  attributes := .cons rfl rfl (by decide) (by decide)
    (.assigned (by decide) (by decide) (Nat.le_refl 5) (by decide) rfl (Nat.le_refl 6)
      (by decide) (.bare (by decide) (by decide))) (.nil 9)
  before := by decide
  blank := by decide
  closes := .inl ⟨rfl, rfl⟩

theorem wellFormed : Markup.WellFormed text (· = ·) [element.entry] 0 10 where
  laid := by
    simp only [Markup.Element.entry, Markup.Laid, Markup.Entry.SpannedBy]
    exact ⟨0, 10, rfl, ⟨10, 10, ⟨rfl, rfl, rfl, 2, 9, 9, startTag⟩, rfl, rfl, rfl⟩, rfl⟩
  inside := by decide

/-- What a script reader answers to the value in parentheses. -/
def program : Program :=
  OneText.program 'c' 5 11 [⟨.line, [], ['/', '/'], ⟨7, 9, by omega⟩, OneText.location 7 9⟩]
    (by omega)

/-- The reader that answers so. -/
def parser : ScriptParser := OneText.parser "     (c//\n)".toList program

theorem tiles : parser.Tiles text := by
  refine OneText.tiles 6 ['c', '/', '/'] ⟨by decide, by decide, by decide, ?_⟩ ?_
  · intro i d hd _
    have hi : i < 3 := (List.getElem?_eq_some_iff.1 hd).1
    have hall : ∀ i < 3, ∃ t ∈ program.lexemes, holds (6 + i) t.range.span = true := by decide
    exact hall i hi
  · decide +kernel

end SlashComment

/-- **Source can be claimed twice**: the slash that ends the comment is claimed by
the bracket as well. -/
theorem slash_comment_claimed_twice :
    ¬ ∀ (text : Text) (entries : List Markup.Entry) (parser : ScriptParser)
        (settings : TemplateSettings) (start stop : Nat) (t : Transformer) (result : Result),
      Markup.WellFormed text (· = ·) entries start stop →
        (∃ fields, TemplateSettings.ofFields fields = .ok settings) →
          parser.Tiles text →
            transform entries text parser settings = (t, .ok result) →
              (t.claims result).Pairwise Apart := by
  intro h
  have hclaims : (match transform [SlashComment.element.entry] SlashComment.text
      SlashComment.parser {} with
      | (t, .ok result) => decide ((t.claims result).Pairwise Apart)
      | _ => true) = false := by decide +kernel
  rcases htransform : transform [SlashComment.element.entry] SlashComment.text
    SlashComment.parser {} with ⟨t, e | result⟩
  · rw [htransform] at hclaims
    cases hclaims
  · rw [htransform] at hclaims
    exact of_decide_eq_false hclaims (h _ _ _ _ _ _ _ _ SlashComment.wellFormed ⟨[], rfl⟩
      SlashComment.tiles htransform)

end Template

end SingleFile
