import SingleFile.Proofs.Emission
import SingleFile.Proofs.Ledger
import SingleFile.Template.Expression

/-!
# Expressions — what a call commits

A call of `ExpressionReader.read` emits tokens and comments in one place
only: once the program is accepted and everything in it but the
expression itself is anchored (`Commits`). All other ways in which a call
ends leave tokens and comments alone (`read_of_not_commits`). The commit
itself can still break off, at a token that the store refuses or at the
expression, and then what went in before stays: `leftover_iff` says
exactly when.
-/

namespace SingleFile

/-- The tokens of a program inside its first and its last one. -/
def Program.inner (p : Program) : List Token := (p.tokens.drop 1).dropLast

namespace Template

namespace ExpressionReader

variable {r : ExpressionReader} {l : Ledger} {start stop : Int} {n : Nat} {surrogate : Text}

/-- The code between two offsets, decoded. -/
def code (r : ExpressionReader) (start stop : Int) : Decoded :=
  .ofText (r.text.slice start stop)

/-- The text handed over for the code between two offsets. -/
def surrogate? (r : ExpressionReader) (start stop : Int) : Option Text :=
  wrapped? (r.text.take start.toNat) (r.code start stop).text

/-- The offsets that code may stand between. -/
def Admits (r : ExpressionReader) (start stop : Int) : Prop :=
  0 < start ∧ start ≤ stop ∧ stop ≤ r.text.length

/-- What the answer to a text comes to: the expression and its program, the
error for which there is none, or the failure that ends the reading. -/
def verdict (r : ExpressionReader) (n : Nat) (surrogate : Text) :
    Except Failure (Except SyntaxError (Program × ScriptNode)) :=
  match r.parser n surrogate with
  | .ok program =>
    match unwrapped? program surrogate.length with
    | some node => .ok (.ok (program, node))
    | none => (Failure.ofBreach (notAnExpression program surrogate)).map .error
  | .error (.syntaxError e) => .ok (.error e)
  | .error f => .error f

/-- **A call reaches its commit**: the program is accepted, its tokens and
comments are anchored, and `ts` and `cs` are what is about to go in. -/
structure Commits (r : ExpressionReader) (start stop : Int) (n : Nat) (program : Program)
    (node : ScriptNode) (ts : List Token) (cs : List Comment) : Prop where
  admits : r.Admits start stop
  accepted : ∃ surrogate, r.surrogate? start stop = some surrogate ∧
    r.verdict n surrogate = .ok (.ok (program, node))
  wrapped : 2 ≤ program.tokens.length
  tokens : program.inner.mapM (r.anchorToken start.toNat (r.code start stop)) = .ok ts
  comments : program.comments.mapM (r.anchorComment start.toNat (r.code start stop)) = .ok cs

/-! ## A call, by its verdict -/

/-- What a call does with the answer to the text it handed over. -/
def conclude (r : ExpressionReader) (start stop : Int) (surrogate : Text)
    (answer : Except SyntaxError Program) : Emission (Except SyntaxError ScriptNode) := do
  let outcome ← match answer with
    | .ok program => settle program surrogate
    | .error e => pure (.error e)
  match outcome with
  | .ok (program, node) =>
    return .ok (← r.commit start.toNat (r.code start stop) program node)
  | .error e =>
    Emission.emit (.event (.expressionRejected r.reporter start stop e))
    return .error e

/-- A call outside the source, or without room for the parenthesis, emits nothing. -/
theorem read_of_refused (h : ¬ r.Admits start stop ∨ r.surrogate? start stop = none) :
    ∃ b, ∀ n, r.read start stop n = ⟨[], .error (.breach b)⟩ := by
  unfold read
  by_cases ha : 0 < start ∧ start ≤ stop ∧ stop ≤ r.text.length
  · have hs : wrapped? (r.text.take start.toNat) (Decoded.ofText (r.text.slice start stop)).text =
        none := h.resolve_left (not_not_intro ha)
    rw [if_neg (not_not_intro ha)]
    simp only [hs]
    exact ⟨.noWrapperRoom, fun _ => rfl⟩
  · rw [if_pos ha]
    exact ⟨.badCodeRange start stop, fun _ => rfl⟩

/-- **A call is refused or has a text**: it breaches at once and emits nothing, or its code stands
inside the source and there is a text to hand over. -/
theorem refused_or_admitted (r : ExpressionReader) (start stop : Int) :
    (∃ b, ∀ n, r.read start stop n = ⟨[], .error (.breach b)⟩) ∨
      r.Admits start stop ∧ ∃ surrogate, r.surrogate? start stop = some surrogate := by
  by_cases h : ¬ r.Admits start stop ∨ r.surrogate? start stop = none
  · exact .inl (read_of_refused h)
  · rw [not_or, Classical.not_not] at h
    exact .inr ⟨h.1, Option.ne_none_iff_exists'.1 h.2⟩

/-- The program of a verdict is the answer, and its expression the one in it. -/
theorem verdict_eq_ok_iff {program : Program} {node : ScriptNode} :
    r.verdict n surrogate = .ok (.ok (program, node)) ↔
      r.parser n surrogate = .ok program ∧ unwrapped? program surrogate.length = some node := by
  unfold verdict
  constructor
  · intro hv
    split at hv
    · rename_i program' hp
      split at hv
      · rename_i node' hu
        cases hv
        exact ⟨hp, hu⟩
      · cases hx : notAnExpression program' surrogate <;>
          simp [hx, Except.map] at hv
    · cases hv
    · cases hv
  · rintro ⟨hp, hu⟩
    simp only [hp, hu]

/-- A call that ends well had a text to hand over. -/
theorem admitted_of_read {outcome : Except SyntaxError ScriptNode}
    (h : (r.read start stop n).result = .ok outcome) :
    r.Admits start stop ∧ ∃ surrogate, r.surrogate? start stop = some surrogate := by
  rcases r.refused_or_admitted start stop with hrefused | hadmitted
  · obtain ⟨b, hb⟩ := hrefused
    rw [hb] at h
    cases h
  · exact hadmitted

/-- A call inside the source asks, and concludes from the answer. -/
theorem read_eq_ask (ha : r.Admits start stop) (hs : r.surrogate? start stop = some surrogate) :
    r.read start stop = Emission.ask r.parser surrogate >>= fun answer =>
      r.conclude start stop surrogate answer := by
  have ha' : 0 < start ∧ start ≤ stop ∧ stop ≤ r.text.length := ha
  have hs' : wrapped? (r.text.take start.toNat) (Decoded.ofText (r.text.slice start stop)).text =
      some surrogate := hs
  unfold read
  rw [if_neg (not_not_intro ha')]
  simp only [hs']
  congr 1

/-- **A call hands over one text, and goes by the verdict on it.** -/
theorem read_of_surrogate (ha : r.Admits start stop) (hs : r.surrogate? start stop = some surrogate) :
    r.read start stop n =
      match r.verdict n surrogate with
      | .error f => ⟨[.asked surrogate], .error f⟩
      | .ok (.error e) =>
        ⟨[.asked surrogate, .event (.expressionRejected r.reporter start stop e)], .ok (.error e)⟩
      | .ok (.ok (program, node)) =>
        let m := r.commit start.toNat (r.code start stop) program node (n + 1)
        ⟨.asked surrogate :: m.effects, m.result.map .ok⟩ := by
  rw [read_eq_ask ha hs]
  unfold verdict
  cases hp : r.parser n surrogate with
  | error f =>
    -- only a syntax error is an answer, any other failure ends the call
    by_cases hf : ∃ e, f = .syntaxError e
    · obtain ⟨e, rfl⟩ := hf
      rw [Emission.bind_apply_ok (Emission.ask_of_syntaxError hp)]
      rfl
    · rw [Emission.bind_apply_error (Emission.ask_of_error hp fun e he => hf ⟨e, he⟩)]
      cases f with
      | syntaxError e => exact absurd ⟨e, rfl⟩ hf
      | _ => rfl
  | ok program =>
    rw [Emission.bind_apply_ok (Emission.ask_of_ok hp)]
    simp only [conclude, settle]
    cases hu : unwrapped? program surrogate.length with
    | none => cases hx : notAnExpression program surrogate <;> rfl
    | some node =>
      simp only [pure_bind, Emission.bind_pure_apply]
      rfl

/-- **The commit.** With two tokens at least and everything anchored, the
tokens go in, then the comments, and only then is the expression anchored. -/
theorem commit_of_anchored {s : Nat} {code : Decoded} {program : Program} {node : ScriptNode}
    {ts : List Token} {cs : List Comment} (hw : 2 ≤ program.tokens.length)
    (ht : program.inner.mapM (r.anchorToken s code) = .ok ts)
    (hc : program.comments.mapM (r.anchorComment s code) = .ok cs) :
    r.commit s code program node n =
      ⟨ts.map .token ++ cs.map .comment, Failure.ofBreach (r.anchorNode s code node)⟩ := by
  have ht' : (program.tokens.drop 1).dropLast.mapM (r.anchorToken s code) = .ok ts := ht
  unfold commit
  rw [if_neg (by omega)]
  simp only [ht', hc, Emission.ofBreach_ok, pure_bind]
  change (⟨ts.map .token ++ (cs.map .comment ++ []), _⟩ : Emitted _) = _
  rw [List.append_nil]
  rfl

/-- **How a commit goes**: that way, or it ends in a breach before anything goes
in. -/
theorem commit_cases (s : Nat) (code : Decoded) (program : Program) (node : ScriptNode) (n : Nat) :
    (∃ ts cs, 2 ≤ program.tokens.length ∧
      program.inner.mapM (r.anchorToken s code) = .ok ts ∧
      program.comments.mapM (r.anchorComment s code) = .ok cs) ∨
    ∃ b, r.commit s code program node n = ⟨[], .error (.breach b)⟩ := by
  unfold commit
  by_cases hw : program.tokens.length < 2
  · rw [if_pos hw]
    exact .inr ⟨.wrapperDropped, rfl⟩
  rw [if_neg hw]
  cases ht : program.inner.mapM (r.anchorToken s code) with
  | error b =>
    have ht' : (program.tokens.drop 1).dropLast.mapM (r.anchorToken s code) = .error b := ht
    simp only [ht']
    exact .inr ⟨b, rfl⟩
  | ok ts =>
    have ht' : (program.tokens.drop 1).dropLast.mapM (r.anchorToken s code) = .ok ts := ht
    cases hc : program.comments.mapM (r.anchorComment s code) with
    | error b =>
      simp only [ht']
      exact .inr ⟨b, rfl⟩
    | ok cs => exact .inl ⟨ts, cs, by omega, rfl, rfl⟩

/-- **A call that reaches its commit.** -/
theorem Commits.read_eq {program : Program} {node : ScriptNode} {ts : List Token}
    {cs : List Comment} (h : r.Commits start stop n program node ts cs) :
    ∃ surrogate, r.surrogate? start stop = some surrogate ∧
      r.read start stop n =
        ⟨.asked surrogate :: (ts.map .token ++ cs.map .comment),
          (Failure.ofBreach (r.anchorNode start.toNat (r.code start stop) node)).map .ok⟩ := by
  obtain ⟨surrogate, hs, hv⟩ := h.accepted
  refine ⟨surrogate, hs, ?_⟩
  rw [read_of_surrogate h.admits hs, hv]
  simp only [commit_of_anchored h.wrapped h.tokens h.comments]

/-- **A call that does not** emits no token and no comment, and returns no
expression. -/
theorem read_of_not_commits
    (h : ∀ program node ts cs, ¬ r.Commits start stop n program node ts cs) :
    Effect.tokens (r.read start stop n).effects = [] ∧
      Effect.comments (r.read start stop n).effects = [] ∧
      ∀ node, (r.read start stop n).result ≠ .ok (.ok node) := by
  rcases r.refused_or_admitted start stop with hrefused | ⟨ha, surrogate, hs⟩
  · obtain ⟨b, hb⟩ := hrefused
    rw [hb]
    exact ⟨rfl, rfl, fun _ h => by cases h⟩
  rw [read_of_surrogate ha hs]
  rcases hv : r.verdict n surrogate with f | e | ⟨program, node⟩
  · exact ⟨rfl, rfl, fun _ h => by cases h⟩
  · exact ⟨rfl, rfl, fun _ h => by cases h⟩
  · rcases r.commit_cases start.toNat (r.code start stop) program node (n + 1) with
      ⟨ts, cs, hw, ht, hc⟩ | ⟨b, hb⟩
    · exact absurd ⟨ha, ⟨surrogate, hs, hv⟩, hw, ht, hc⟩ (h program node ts cs)
    · simp only [hb]
      exact ⟨rfl, rfl, fun _ h => by cases h⟩

/-- **A call hands over one text** and no more, however it ends. -/
theorem texts_read (ha : r.Admits start stop) (hs : r.surrogate? start stop = some surrogate) :
    Effect.texts (r.read start stop n).effects = [surrogate] := by
  rw [read_of_surrogate ha hs]
  rcases r.verdict n surrogate with f | e | ⟨program, node⟩
  · rfl
  · rfl
  · rcases r.commit_cases start.toNat (r.code start stop) program node (n + 1) with
      ⟨ts, cs, hw, ht, hc⟩ | ⟨b, hb⟩
    · simp [commit_of_anchored hw ht hc, Effect.texts, List.filterMap_map]
    · simp only [hb]
      rfl

/-! ## What a call leaves behind -/

/-- **A commit that breaks off halfway**: a token is refused after another
went in, or the expression cannot be anchored after tokens or comments
went in. -/
def BreaksOff (r : ExpressionReader) (l : Ledger) (start stop : Int) : Prop :=
  ∃ program node ts cs, r.Commits start stop l.asked.length program node ts cs ∧
    ((∃ t rest s, ts = t :: rest ∧ l.store.push t = .ok s ∧ (s.pushAll rest).2 ≠ none) ∨
      ((l.store.pushAll ts).2 = none ∧ (ts ≠ [] ∨ cs ≠ []) ∧
        ∃ b, r.anchorNode start.toNat (r.code start stop) node = .error b))

/-- The ledger after a commit: tokens up to the first refused, and the
comments only when none is. -/
theorem Commits.run_eq {program : Program} {node : ScriptNode} {ts : List Token}
    {cs : List Comment} (h : r.Commits start stop l.asked.length program node ts cs) :
    (l.run (r.read start stop)).1.store = (l.store.pushAll ts).1 ∧
      (l.run (r.read start stop)).1.comments =
        (if (l.store.pushAll ts).2 = none then l.comments ++ cs else l.comments) ∧
      (l.run (r.read start stop)).2 = match (l.store.pushAll ts).2 with
        | none => (Failure.ofBreach (r.anchorNode start.toNat (r.code start stop) node)).map .ok
        | some b => .error (.breach b) := by
  obtain ⟨surrogate, -, hread⟩ := h.read_eq
  unfold Ledger.run
  rw [hread]
  simp only [Ledger.enterAll, Ledger.enter, Ledger.enterAll_append, Ledger.enterAll_map_token]
  cases hp : (l.store.pushAll ts).2 with
  | none => simp [Ledger.enterAll_map_comment]
  | some b => simp

/-- A call that does not reach its commit leaves tokens and comments alone. -/
theorem run_of_not_commits
    (h : ∀ program node ts cs, ¬ r.Commits start stop l.asked.length program node ts cs) :
    (l.run (r.read start stop)).1.store = l.store ∧
      (l.run (r.read start stop)).1.comments = l.comments ∧
      ∀ node, (l.run (r.read start stop)).2 ≠ .ok (.ok node) := by
  obtain ⟨ht, hc, hn⟩ := read_of_not_commits h
  have hs := Ledger.enterAll_store l (r.read start stop l.asked.length).effects
  rw [ht] at hs
  have hnone : (l.enterAll (r.read start stop l.asked.length).effects).2 = none :=
    congrArg Prod.snd hs
  rw [Ledger.run_fst]
  refine ⟨congrArg Prod.fst hs, ?_, fun node hok => ?_⟩
  · rw [(Ledger.enterAll_comments hnone).1, hc, List.append_nil]
  · exact hn node (Ledger.run_snd_eq_ok_iff.1 hok).1

/-- **A call returns an expression** exactly when it reaches its commit, the
store takes all tokens, and the expression is anchored. -/
theorem exists_run_eq_ok_iff :
    (∃ expression, (l.run (r.read start stop)).2 = .ok (.ok expression)) ↔
      ∃ program node ts cs, r.Commits start stop l.asked.length program node ts cs ∧
        (l.store.pushAll ts).2 = none ∧
        ∃ node', r.anchorNode start.toNat (r.code start stop) node = .ok node' := by
  constructor
  · rintro ⟨expression, hok⟩
    have hcommits : ∃ program node ts cs,
        r.Commits start stop l.asked.length program node ts cs :=
      Classical.not_not.1 fun hnone => (run_of_not_commits fun program node ts cs hc =>
        hnone ⟨program, node, ts, cs, hc⟩).2.2 expression hok
    obtain ⟨program, node, ts, cs, hc⟩ := hcommits
    have hend := hc.run_eq.2.2
    rw [hok] at hend
    cases hpush : (l.store.pushAll ts).2 with
    | some b => simp [hpush] at hend
    | none =>
      refine ⟨program, node, ts, cs, hc, hpush, ?_⟩
      cases hn : r.anchorNode start.toNat (r.code start stop) node with
      | error b => simp [hpush, hn, Except.map] at hend
      | ok node' => exact ⟨node', rfl⟩
  · rintro ⟨program, node, ts, cs, hc, hpush, node', hn⟩
    refine ⟨node', hc.run_eq.2.2.trans ?_⟩
    rw [hpush, hn]
    rfl

/-- A commit whose tokens are all accepted changes nothing only when there is
nothing to go in. -/
theorem Commits.unchanged_iff_of_accepted {program : Program} {node : ScriptNode}
    {ts : List Token} {cs : List Comment}
    (h : r.Commits start stop l.asked.length program node ts cs)
    (hall : (l.store.pushAll ts).2 = none) :
    ((l.run (r.read start stop)).1.store = l.store ∧
      (l.run (r.read start stop)).1.comments = l.comments) ↔ ts = [] ∧ cs = [] := by
  obtain ⟨hstore, hcomments, -⟩ := h.run_eq
  rw [hall, if_pos rfl] at hcomments
  rw [hstore, hcomments, TokenStore.pushAll_fst_eq_self_iff, List.append_right_eq_self]
  refine and_congr_left fun _ => ⟨fun hfirst => ?_, fun hnil => ?_⟩
  · cases ts with
    | nil => rfl
    | cons t rest =>
      -- the first of several accepted tokens is accepted itself
      cases hpush : l.store.push t with
      | ok s => exact absurd hpush (hfirst t rest rfl s)
      | error b => simp [TokenStore.pushAll, hpush] at hall
  · rw [hnil]
    intro t rest heq
    cases heq

/-- One with a refused token changes nothing only when that is the first. -/
theorem Commits.unchanged_iff_of_refused {program : Program} {node : ScriptNode}
    {ts : List Token} {cs : List Comment} {b : Breach}
    (h : r.Commits start stop l.asked.length program node ts cs)
    (hrefused : (l.store.pushAll ts).2 = some b) :
    ((l.run (r.read start stop)).1.store = l.store ∧
      (l.run (r.read start stop)).1.comments = l.comments) ↔
      ∀ t rest, ts = t :: rest → ∀ s, l.store.push t ≠ .ok s := by
  obtain ⟨hstore, hcomments, -⟩ := h.run_eq
  rw [hrefused, if_neg (Option.some_ne_none b)] at hcomments
  rw [hstore, hcomments, TokenStore.pushAll_fst_eq_self_iff, and_iff_left rfl]

/-- A commit that breaks off halfway ends the call in a breach. -/
theorem BreaksOff.breach (h : r.BreaksOff l start stop) :
    ∃ b, (l.run (r.read start stop)).2 = .error (.breach b) := by
  obtain ⟨program, node, ts, cs, hc, ⟨t, rest, s, rfl, hpush, hrest⟩ | ⟨hall, -, b, hb⟩⟩ := h
  · obtain ⟨b, hb⟩ := Option.ne_none_iff_exists'.1 hrest
    refine ⟨b, hc.run_eq.2.2.trans ?_⟩
    simp only [TokenStore.pushAll, hpush, hb]
  · refine ⟨b, hc.run_eq.2.2.trans ?_⟩
    rw [hall, hb]
    rfl

/-- It leaves something behind. -/
theorem BreaksOff.changed (h : r.BreaksOff l start stop) :
    ¬ ((l.run (r.read start stop)).1.store = l.store ∧
      (l.run (r.read start stop)).1.comments = l.comments) := by
  obtain ⟨program, node, ts, cs, hc, ⟨t, rest, s, rfl, hpush, hrest⟩ | ⟨hall, hne, -⟩⟩ := h
  · obtain ⟨b, hb⟩ := Option.ne_none_iff_exists'.1 hrest
    have hrefused : (l.store.pushAll (t :: rest)).2 = some b := by
      simp only [TokenStore.pushAll, hpush, hb]
    rw [hc.unchanged_iff_of_refused hrefused]
    exact fun hfirst => hfirst t rest rfl s hpush
  · rw [hc.unchanged_iff_of_accepted hall]
    exact fun hnil => hne.elim (absurd hnil.1) (absurd hnil.2)

/-- **Only a commit that breaks off halfway** leaves something behind without an
expression being returned. -/
theorem breaksOff_of_changed (hfails : ∀ node, (l.run (r.read start stop)).2 ≠ .ok (.ok node))
    (hchanged : ¬ ((l.run (r.read start stop)).1.store = l.store ∧
      (l.run (r.read start stop)).1.comments = l.comments)) : r.BreaksOff l start stop := by
  by_cases hcommits : ∃ program node ts cs, r.Commits start stop l.asked.length program node ts cs
  · obtain ⟨program, node, ts, cs, hc⟩ := hcommits
    refine ⟨program, node, ts, cs, hc, ?_⟩
    -- the commit ends at its tokens or after its comments, by what the store says
    cases hp : (l.store.pushAll ts).2 with
    | some b =>
      rw [hc.unchanged_iff_of_refused hp] at hchanged
      simp only [Classical.not_forall, Classical.not_not] at hchanged
      obtain ⟨t, rest, rfl, s, hpush⟩ := hchanged
      simp only [TokenStore.pushAll, hpush] at hp
      exact .inl ⟨t, rest, s, rfl, hpush, by rw [hp]; exact Option.some_ne_none b⟩
    | none =>
      rw [hc.unchanged_iff_of_accepted hp, Classical.not_and_iff_not_or_not] at hchanged
      refine .inr ⟨rfl, hchanged, ?_⟩
      cases hn : r.anchorNode start.toNat (r.code start stop) node with
      | error b => exact ⟨b, rfl⟩
      | ok node' =>
        have hend := hc.run_eq.2.2
        rw [hp, hn] at hend
        exact absurd hend (hfails node')
  · obtain ⟨hs, hc, -⟩ := run_of_not_commits fun program node ts cs h =>
      hcommits ⟨program, node, ts, cs, h⟩
    exact absurd ⟨hs, hc⟩ hchanged

/-- **A failed call leaves something behind exactly when its commit breaks
off halfway**, and what it ends with then is a breach. So a rejected
expression never leaves anything, nor does a call that fails before its
commit or at the first thing to go in. -/
theorem leftover_iff (r : ExpressionReader) (l : Ledger) (start stop : Int) :
    ((∀ node, (l.run (r.read start stop)).2 ≠ .ok (.ok node)) ∧
        ¬ ((l.run (r.read start stop)).1.store = l.store ∧
          (l.run (r.read start stop)).1.comments = l.comments) ↔ r.BreaksOff l start stop) ∧
      (r.BreaksOff l start stop → ∃ b, (l.run (r.read start stop)).2 = .error (.breach b)) := by
  refine ⟨⟨?_, fun h => ⟨fun node hok => ?_, h.changed⟩⟩, BreaksOff.breach⟩
  · rintro ⟨hfails, hchanged⟩
    exact breaksOff_of_changed hfails hchanged
  · obtain ⟨b, hb⟩ := h.breach
    rw [hb] at hok
    cases hok

/-! ## A comparison

What a script reader answers to `a<b` in parentheses that begin at
offset 4, for code spelled with the reference `&lt` and without. -/

namespace LessThan

/-- A place on the first line. -/
def location (start stop : Int) : SingleFile.Location := ⟨⟨1, start⟩, ⟨1, stop⟩⟩

/-- The comparison. -/
def node : ScriptNode :=
  ⟨"binary_expression", ⟨5, 8, by omega⟩, location 5 8, ['a', '<', 'b'],
    [⟨"identifier", ⟨5, 6, by omega⟩, location 5 6, ['a'], []⟩,
      ⟨"identifier", ⟨7, 8, by omega⟩, location 7 8, ['b'], []⟩]⟩

/-- The tokens inside the parentheses. -/
def inner : List Token :=
  [⟨.identifier, ['a'], ['a'], ⟨5, 6, by omega⟩, location 5 6⟩,
    ⟨.punctuator, ['<'], ['<'], ⟨6, 7, by omega⟩, location 6 7⟩,
    ⟨.identifier, ['b'], ['b'], ⟨7, 8, by omega⟩, location 7 8⟩]

/-- The parentheses and what they hold. -/
def group : ScriptNode :=
  ⟨"parenthesized_expression", ⟨4, 9, by omega⟩, location 4 9, ['(', 'a', '<', 'b', ')'], [node]⟩

/-- The whole answer. -/
def program : Program where
  body := [⟨"expression_statement", ⟨4, 9, by omega⟩, location 4 9, group.raw, [group]⟩]
  tokens := ⟨.punctuator, ['('], ['('], ⟨4, 5, by omega⟩, location 4 5⟩ ::
    (inner ++ [⟨.punctuator, [')'], [')'], ⟨8, 9, by omega⟩, location 8 9⟩])
  comments := []
  range := ⟨0, 9, by omega⟩

/-- The reader that gives this answer to everything. -/
def parser : ScriptParser := fun _ _ => .ok program

/-- The source in which one reference stands for `<b`. -/
def joined : Text := "<p>{{a&ltb}}</p>".toList

/-- There the second token of the reference is refused, after the first has
gone in. -/
theorem run_joined : (Ledger.run {} ((ofText joined parser "").read 5 10)).1.store.size = 2 ∧
    (Ledger.run {} ((ofText joined parser "").read 5 10)).2.toOption.isNone = true := by
  decide +kernel

end LessThan

/-- The commit of that call breaks off halfway. -/
theorem breaksOff_joined : (ofText LessThan.joined LessThan.parser "").BreaksOff {} 5 10 := by
  obtain ⟨hsize, hfails⟩ := LessThan.run_joined
  refine (leftover_iff _ _ _ _).1.1 ⟨fun node hok => ?_, fun hsame => ?_⟩
  · rw [hok] at hfails
    cases hfails
  · rw [hsame.1] at hsize
    cases hsize

/-- **A failed call does leave something behind**: with `&ltb` for `<b`, the
tokens `<` and `b` come from one reference, the second is refused, and
`a` and `<` stay. -/
theorem read_leaves_two_tokens :
    ¬ ∀ (r : ExpressionReader) (l : Ledger) (start stop : Int),
      (∀ node, (l.run (r.read start stop)).2 ≠ .ok (.ok node)) →
        (l.run (r.read start stop)).1.store = l.store ∧
          (l.run (r.read start stop)).1.comments = l.comments := by
  intro h
  obtain ⟨hsize, hfails⟩ := LessThan.run_joined
  have hsame := (h (ofText LessThan.joined LessThan.parser "") {} 5 10 fun node hok => by
    rw [hok] at hfails
    cases hfails).1
  rw [hsame] at hsize
  cases hsize

end ExpressionReader

end Template

end SingleFile
