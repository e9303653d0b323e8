import SingleFile.Proofs.Span
import SingleFile.Proofs.Template.Nesting
import SingleFile.Proofs.Template.Refusals
import SingleFile.Proofs.Template.Search

/-!
# Runs — text and expressions side by side

A run of text is read to nodes that leave nothing of it out: an
expression for each interpolation and a text for each gap before, between
and behind them that is not empty (`split_runs`). The interpolations are
those that a search for the delimiters finds, and what is read of an
expression is its code, which is the text between the delimiters without
the blanks at either end (`split_of_visit`).
-/

namespace SingleFile

namespace Template

/-! ## Nodes side by side -/

/-- Whether a node is a run of text. -/
def Node.isText : Node → Bool
  | .text _ => true
  | _ => false

/-- The expression that a node is, if it is one. -/
def Node.container? : Node → Option Container
  | .container k => some k
  | _ => none

/-- The expressions among nodes. -/
def Node.containers (nodes : List Node) : List Container := nodes.filterMap Node.container?

/-- Ranges one after the other, none of them empty: the first starts at `start`, each of the others
where the one before it ends, and the last ends at `stop`. -/
def Contiguous (start : Nat) : List Range → (stop : Nat) → Prop
  | [], stop => start = stop
  | r :: rs, stop => r.start = start ∧ r.start < r.stop ∧ Contiguous r.stop rs stop

/-- **A run of text that is split** at some spans: its nodes leave nothing out, each of them is a
text or an expression, no text stands next to another, and the expressions have these spans. -/
structure Split (start stop : Nat) (spans : List (Nat × Nat)) (nodes : List Node) : Prop where
  contiguous : Contiguous start (nodes.map (·.item.place.range)) stop
  leaves : ∀ v ∈ nodes, v.isText = true ∨ v.container?.isSome = true
  apart : nodes.IsChain fun a b => ¬ (a.isText ∧ b.isText)
  spans_eq : (Node.containers nodes).map (·.place.range.span) = spans

/-- **What is left of a text** between two offsets without the blanks at either end. -/
structure Trims (t : Text) (start stop : Nat) (code : Nat × Nat) : Prop where
  ordered : start ≤ code.1 ∧ code.1 ≤ code.2 ∧ code.2 ≤ stop
  before : t.Run Text.isBlank start code.1
  behind : t.Run Text.isBlank code.2 stop
  ends : code.1 < code.2 → (∃ d, t[code.1]? = some d ∧ Text.isBlank d = false) ∧
    ∃ d, t[code.2 - 1]? = some d ∧ Text.isBlank d = false

section

variable {start mid stop : Nat} {rs : List Range} {spans : List (Nat × Nat)} {nodes : List Node}

/-- Ranges without gaps do not lead back. -/
theorem Contiguous.le (h : Contiguous start rs stop) : start ≤ stop := by
  induction rs generalizing start with
  | nil => exact Nat.le_of_eq h
  | cons r rs ih =>
    obtain ⟨rfl, hlt, hrest⟩ := h
    exact hlt.le.trans (ih hrest)

/-- And there are some, unless there is nothing to cover. -/
theorem Contiguous.eq_nil_iff (h : Contiguous start rs stop) : rs = [] ↔ start = stop := by
  cases rs with
  | nil => exact iff_of_true rfl h
  | cons r rs =>
    obtain ⟨rfl, hlt, hrest⟩ := h
    exact iff_of_false (List.cons_ne_nil _ _) (hlt.trans_le hrest.le).ne

/-- The code between two offsets is what is left of the text there. -/
theorem trims_codeSpan {t : Text} (h : start ≤ stop) (hstop : stop ≤ t.length) :
    Trims t start stop (codeSpan t start stop) := by
  obtain ⟨h1, h2, h3, hbefore, hbehind, hfirst, hlast⟩ := codeSpan_spec h hstop
  exact ⟨⟨h1, h2, h3⟩, hbefore, hbehind, fun hlt => ⟨hfirst (by omega), hlast hlt⟩⟩

/-- Nothing is split at nothing. -/
theorem split_nil (start : Nat) : Split start start [] [] :=
  ⟨rfl, List.forall_mem_nil _, .nil, rfl⟩

/-- **An expression in front** of a run that is split. -/
theorem Split.cons_container {k : Container} (hk : k.place.Spans start mid) (hlt : start < mid)
    (h : Split mid stop spans nodes) :
    Split start stop ((start, mid) :: spans) (.container k :: nodes) := by
  obtain ⟨hstart, hstop⟩ := hk
  obtain rfl := Int.ofNat_inj.1 hstart
  obtain rfl := Int.ofNat_inj.1 hstop
  refine ⟨⟨rfl, hlt, h.contiguous⟩, ?_, ?_, ?_⟩
  · exact List.forall_mem_cons.2 ⟨.inr rfl, h.leaves⟩
  · refine h.apart.cons fun v _ hv => ?_
    exact Bool.false_ne_true hv.1
  · exact congrArg (_ :: ·) h.spans_eq

/-- **A text in front** of a run that is split, unless that begins with a text. -/
theorem Split.cons_text {run : TextRun} (hrun : run.place.Spans start mid) (hlt : start < mid)
    (hhead : ∀ v ∈ nodes.head?, v.isText = false) (h : Split mid stop spans nodes) :
    Split start stop spans (.text run :: nodes) := by
  obtain ⟨hstart, hstop⟩ := hrun
  obtain rfl := Int.ofNat_inj.1 hstart
  obtain rfl := Int.ofNat_inj.1 hstop
  refine ⟨⟨rfl, hlt, h.contiguous⟩, ?_, ?_, h.spans_eq⟩
  · exact List.forall_mem_cons.2 ⟨.inl rfl, h.leaves⟩
  · refine h.apart.cons fun v hv htexts => ?_
    rw [hhead v hv] at htexts
    exact Bool.false_ne_true htexts.2

end

namespace Context

variable {c : Context} {start stop cursor : Nat} {spans : List (Nat × Nat)}

/-! ## Runs of text -/

/-- The text up to an offset is one node, or none where there is nothing. -/
theorem yields_textBefore :
    (if (start : Int) < stop then c.textRun start stop >>= fun r => pure [Node.text r]
      else pure [] : Emission (List Node)).Yields fun vs =>
        (start < stop ∧ ∃ run, vs = [.text run] ∧ run.place.Spans start stop) ∨
          ¬ start < stop ∧ vs = [] := by
  by_cases hlt : start < stop
  · rw [if_pos (Int.ofNat_lt.2 hlt)]
    exact yields_textRun.bind fun run hrun => Emission.ensures_pure (.inl ⟨hlt, run, rfl, hrun⟩)
  · rw [if_neg fun h => hlt (Int.ofNat_lt.1 h)]
    exact Emission.ensures_pure (.inr ⟨hlt, rfl⟩)

/-- **A run of text** is split at its interpolations, from a cursor on. -/
theorem split_runs (h : Chained c.text c.opening c.closing cursor stop spans) :
    (c.runs cursor stop spans).Yields (Split cursor stop spans) := by
  induction spans generalizing cursor with
  | nil =>
    refine (yields_textBefore (c := c)).imp fun vs _ hvs => ?_
    rcases hvs with ⟨hlt, run, rfl, hrun⟩ | ⟨hnot, rfl⟩
    · exact Split.cons_text hrun hlt (fun _ hv => by cases hv) (split_nil stop)
    · obtain rfl : cursor = stop := Nat.le_antisymm h (Nat.le_of_not_lt hnot)
      exact split_nil cursor
  | cons span rest ih =>
    obtain ⟨first, last⟩ := span
    obtain ⟨h1, h2, -, hrest⟩ := h
    rw [runs_cons]
    refine yields_textBefore.bind fun before hbefore => ?_
    refine (yields_container _ _).bind fun k hk => ?_
    refine (ih hrest).bind fun more hmore => Emission.ensures_pure ?_
    have hsplit := hmore.cons_container hk (by omega)
    rcases hbefore with ⟨hlt, run, rfl, hrun⟩ | ⟨hnot, rfl⟩
    · exact hsplit.cons_text hrun hlt fun v hv => by cases hv; rfl
    · obtain rfl : cursor = first := by omega
      exact hsplit

/-- **A run of text that is read has a transcript** with the expressions among its nodes. -/
theorem exists_transcript_runs (hc : c.Indexed) {cursor stop : Int} {n : Nat} {nodes : List Node}
    (h : (c.runs cursor stop spans n).result = .ok nodes) :
    ∃ ps, c.reader.Transcribes n ps ∧ (c.runs cursor stop spans n).effects = Part.effectsAll ps ∧
      Part.expressions ps = Node.expressionsAll c nodes := by
  -- reading it again with no texts refused is one way to revise it
  have hrevises : Emission.Revises c.reader (fun _ => none) (c.runs cursor stop spans)
      ((c.refusing fun _ => none).runs cursor stop spans)
      (Revised (Node.expressionsAll c) (Node.reviseAll c (c.reviser fun _ => none))) :=
    revises_runs hc cursor stop spans
  obtain ⟨ps, -, hps, heffects, -, hexpressions, -⟩ := hrevises n nodes h
  exact ⟨ps, hps, heffects, hexpressions.symm⟩

/-- The expressions of a run of text are its nodes of this kind, each with the delimiters of the
settings. -/
theorem expressionsAll_of_leaves {nodes : List Node}
    (h : ∀ v ∈ nodes, v.isText = true ∨ v.container?.isSome = true) :
    Node.expressionsAll c nodes =
      (Node.containers nodes).map fun k => ⟨k, c.opening.length, c.closing.length⟩ := by
  induction nodes with
  | nil => rfl
  | cons v nodes ih =>
    obtain ⟨hv, hnodes⟩ := List.forall_mem_cons.1 h
    rw [Node.expressionsAll, ih hnodes]
    cases v with
    | element _ _ _ _ _ _ => rcases hv with hv | hv <;> cases hv
    | text run => rfl
    | container k => rfl

/-- The code of an expression is what is left of the text between its delimiters. -/
theorem trims_of_mem {t opening closing : Text} {k : Container} (hstop : stop ≤ t.length)
    (hspans : Chained t opening closing start stop spans) (hk : k.place.range.span ∈ spans) :
    Trims t (k.place.range.start + opening.length) (k.place.range.stop - closing.length)
      (Delimited.code ⟨k, opening.length, closing.length⟩ t) := by
  obtain ⟨hsize, hle⟩ := hspans.fits hk
  have hsize : k.place.range.start + opening.length + 1 + closing.length ≤ k.place.range.stop :=
    hsize
  have hle : k.place.range.stop ≤ stop := hle
  exact trims_codeSpan (by omega) (by omega)

/-- **A run of text is split at the interpolations that a search finds**, whatever the delimiters
are. Its nodes cover it, one after the other, and there are none only when it is empty. The
expressions among them are all that was read: each one by its code, in order, and to the outcome
that it has. -/
theorem split_of_visit {text : Text} {parser : ScriptParser} {settings : TemplateSettings}
    {reporter : String} {l : Ledger} {m : Mark} {nodes : List Node} (hstart : m.start = start)
    (hstop : m.stop = stop) (hle : start ≤ stop) (hlen : stop ≤ text.length)
    (hok : (l.run ((ofSettings text parser settings reporter).visit (.text m))).2 = .ok nodes) :
    (∀ spans, Scan text settings.interpolationOpen settings.interpolationClose stop start spans ↔
        spans = (Node.containers nodes).map (·.place.range.span)) ∧
      Split start stop ((Node.containers nodes).map (·.place.range.span)) nodes ∧
      (nodes = [] ↔ start = stop) ∧
      ∃ ps, (ExpressionReader.ofText text parser reporter).Transcribes l.asked.length ps ∧
        ((ofSettings text parser settings reporter).visit (.text m) l.asked.length).effects =
          Part.effectsAll ps ∧
        Part.expressions ps = (Node.containers nodes).map (fun k =>
          ⟨k, settings.interpolationOpen.length, settings.interpolationClose.length⟩) ∧
        ∀ k ∈ Node.containers nodes,
          Trims text (k.place.range.start + settings.interpolationOpen.length)
            (k.place.range.stop - settings.interpolationClose.length)
            (Delimited.code ⟨k, settings.interpolationOpen.length,
              settings.interpolationClose.length⟩ text) := by
  have hresult := (Ledger.run_snd_eq_ok_iff.1 hok).1
  rw [visit, readText, hstart, hstop] at hresult ⊢
  have hchained : Chained text settings.interpolationOpen settings.interpolationClose start stop
      (interpolations settings.interpolationOpen settings.interpolationClose text start stop) :=
    chained_interpolations hle hlen
  have hsplit := split_runs (c := ofSettings text parser settings reporter) hchained _ _ hresult
  obtain ⟨ps, hps, heffects, hexpressions⟩ :=
    exists_transcript_runs (c := ofSettings text parser settings reporter) rfl hresult
  have hspans : (Node.containers nodes).map (·.place.range.span) =
      interpolations settings.interpolationOpen settings.interpolationClose text start stop :=
    hsplit.spans_eq
  refine ⟨fun spans => ?_, ?_, ?_, ps, hps, heffects, ?_, fun k hk => ?_⟩
  · rw [hspans]
    exact scan_iff_interpolations hle hlen
  · rw [hspans]
    exact hsplit
  · rw [← hsplit.contiguous.eq_nil_iff, List.map_eq_nil_iff]
  · rw [hexpressions, expressionsAll_of_leaves hsplit.leaves]
    rfl
  · exact trims_of_mem hlen hchained (hspans ▸ List.mem_map_of_mem hk)

/-! ## A delimiter that overlaps itself -/

namespace Bars

/-- A text in which the same delimiter opens and closes, and also begins the code. -/
def source : Text := "x||||b||c".toList

/-- The settings with this delimiter. -/
def settings : TemplateSettings where
  interpolationOpen := ['|', '|']
  interpolationClose := ['|', '|']

/-- A script reader that rejects the code. -/
def rejecting : ScriptParser := fun _ _ => .error (.syntaxError ⟨"Unexpected token", 3, ⟨1, 3⟩⟩)

/-- The visit of the whole text. -/
def visit : Emission (List Node) :=
  (ofSettings source rejecting settings "").visit (.text ⟨0, 9, 1, 1⟩)

/-- It returns, with one expression. -/
theorem run_visit : (Ledger.run {} visit).2.toOption.map
    (fun nodes => (Node.containers nodes).map (·.place.range.span)) = some [(1, 8)] := by
  decide +kernel

end Bars

/-- The closing delimiter is the first one behind a character, and the text on both sides is kept. -/
theorem split_of_visit_bars : ∃ nodes, (Ledger.run {} Bars.visit).2 = .ok nodes ∧
    Scan Bars.source ['|', '|'] ['|', '|'] 9 0 [(1, 8)] ∧ Split 0 9 [(1, 8)] nodes := by
  obtain ⟨nodes, hnodes, hspans⟩ := Option.map_eq_some_iff.1 Bars.run_visit
  have hok : (Ledger.run {} Bars.visit).2 = .ok nodes := by
    cases hrun : (Ledger.run {} Bars.visit).2 with
    | error f =>
      rw [hrun] at hnodes
      cases hnodes
    | ok v =>
      rw [hrun] at hnodes
      exact congrArg Except.ok (Option.some.inj hnodes)
  obtain ⟨hscan, hsplit, -⟩ := @split_of_visit 0 9 Bars.source Bars.rejecting Bars.settings ""
    {} ⟨0, 9, 1, 1⟩ nodes rfl rfl (by decide) (by decide) hok
  rw [hspans] at hsplit
  exact ⟨nodes, hok, (hscan _).2 hspans.symm, hsplit⟩

end Context

end Template

end SingleFile
