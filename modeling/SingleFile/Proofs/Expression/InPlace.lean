import SingleFile.Proofs.Expression.Anchoring
import SingleFile.Proofs.Expression.Commit

/-!
# Expressions — what a well-behaved program comes to

A script reader that answers with one parenthesised expression, its
tokens in order inside the code, can still be refused: two tokens that
come from one character reference are anchored onto the same source.
`read_returns_iff` says that this, and an empty comment or node where a
reference stands for nothing, are all that can go wrong, and what goes
into the store when nothing does.
-/

namespace SingleFile

/-- **One parenthesised expression**: the program is a single expression
statement that begins with a parenthesis up to the end of the text, around
one node, with a first and a last token around the inner ones. The inner
tokens are not empty and in order; they, the comments and the nodes lie
inside the code. -/
structure Program.Parenthesised (program : Program) (start size total : Nat) (node : ScriptNode)
    (inner : List Token) : Prop where
  body : ∃ statement group more, program.body = [statement] ∧
    statement.kind = "expression_statement" ∧ statement.children = group :: more ∧
    group.kind = "parenthesized_expression" ∧ group.range.stop = total ∧ group.children = [node]
  tokens : ∃ opening closing, program.tokens = opening :: (inner ++ [closing])
  nonempty : ∀ t ∈ inner, t.range.start < t.range.stop
  ordered : inner.Pairwise Token.Before
  inside : ∀ t ∈ inner ++ program.comments, start ≤ t.range.start ∧ t.range.stop ≤ start + size
  nodes : ∀ x ∈ node.walk, start ≤ x.range.start ∧ x.range.stop ≤ start + size

/-- **No reference is divided**: none stands both for the end of one token and
for the beginning of another, and none that stands for nothing was left
out where a comment or a node is empty. -/
structure Program.Undivided (program : Program) (d : Decoded) (start : Nat) (node : ScriptNode)
    (inner : List Token) : Prop where
  tokens : inner.Pairwise fun a b => ¬ d.Joined (a.range.stop - 1 - start) (b.range.start - start)
  comments : ∀ c ∈ program.comments,
    c.range.start = c.range.stop → ¬ d.Omits (c.range.start - start)
  nodes : ∀ x ∈ node.walk, x.range.start = x.range.stop → ¬ d.Omits (x.range.start - start)

/-- A token anchored onto the source through an offset map. -/
structure Token.AnchoredAs (d : Decoded) (start : Nat) (t t' : Token) : Prop where
  kind : t'.kind = t.kind
  value : t'.value = t.value
  starts : t'.range.start = start + d.rawStart (t.range.start - start)
  stops : t'.range.stop = start + d.rawStop (t.range.stop - start)

/-- Lists that go along with each other have their orders together. -/
theorem pairwise_iff_of_forall₂ {α β : Type} {R : α → β → Prop} {B S : α → α → Prop}
    {T : β → β → Prop} {xs : List α} {ys : List β} (h : List.Forall₂ R xs ys)
    (hB : xs.Pairwise B)
    (hST : ∀ x y x' y', R x y → R x' y' → B x x' → (S x x' ↔ T y y')) :
    xs.Pairwise S ↔ ys.Pairwise T := by
  induction h with
  | nil => simp
  | @cons x y xs ys hxy hxs ih =>
    -- the tails by the induction, the head against the tail by another along them
    obtain ⟨hx, htail⟩ := List.pairwise_cons.1 hB
    rw [List.pairwise_cons, List.pairwise_cons, ih htail]
    refine and_congr_left fun hpair => ?_
    clear ih hB htail hpair
    induction hxs with
    | nil => simp
    | cons hxy' _ ih =>
      obtain ⟨hb, hx⟩ := List.forall_mem_cons.1 hx
      rw [List.forall_mem_cons, List.forall_mem_cons, ih hx, hST _ _ _ _ hxy hxy' hb]

/-- No token of a store ends after its last one. -/
theorem TokenStore.stop_le_of_getLast? {s : TokenStore} {n : Nat}
    (h : ∀ t, s.tokens.getLast? = some t → t.range.stop ≤ n) :
    ∀ t ∈ s.tokens, t.range.stop ≤ n := by
  intro t ht
  obtain ⟨last, hl⟩ := Option.ne_none_iff_exists'.1
    (mt List.getLast?_eq_none_iff.1 (List.ne_nil_of_mem ht))
  obtain ⟨init, hinit⟩ := List.getLast?_eq_some_iff.1 hl
  rw [hinit] at ht
  rcases List.mem_append.1 ht with hi | hi
  · have hbefore : t.Before last :=
      (List.pairwise_append.1 (hinit ▸ s.ordered)).2.2 t hi last List.mem_cons_self
    have := last.range.start_le_stop
    have := h last hl
    unfold Token.Before at hbefore
    omega
  · rw [List.mem_singleton.1 hi]
    exact h last hl

namespace Template

/-- The wrapper finds room where some character ends no line. -/
theorem exists_wrapped {before : Text} (code : Text)
    (h : ∃ c ∈ before, Text.isTerminator c = false) : ∃ s, wrapped? before code = some s := by
  have hne : before.reverse.dropWhile Text.isTerminator ≠ [] := by
    obtain ⟨c, hc, hterm⟩ := h
    rw [Ne, List.dropWhile_eq_nil_iff]
    exact fun hall => by simp [hall c (List.mem_reverse.2 hc)] at hterm
  obtain ⟨d, rest, hd⟩ := List.exists_cons_of_ne_nil hne
  simp only [wrapped?, wrapperLead?, hd]
  exact ⟨_, rfl⟩

namespace ExpressionReader

variable {text : Text} {parser : ScriptParser} {reporter : String} {l : Ledger}
variable {start stop : Nat} {program : Program} {node : ScriptNode} {inner : List Token}

/-- The program of a parenthesised expression is accepted for its node. -/
theorem unwrapped?_of_parenthesised {size total : Nat}
    (h : program.Parenthesised start size total node inner) :
    unwrapped? program total = some node := by
  obtain ⟨statement, group, more, hb, hs, hc, hg, ht, hn⟩ := h.body
  simp only [unwrapped?, hb, hc, hn]
  exact if_pos ⟨hs, hg, ht⟩

/-- Its inner tokens are those between the first and the last. -/
theorem inner_of_parenthesised {size total : Nat}
    (h : program.Parenthesised start size total node inner) :
    program.inner = inner ∧ 2 ≤ program.tokens.length := by
  obtain ⟨opening, closing, ht⟩ := h.tokens
  rw [Program.inner, ht]
  simp

/-- A call commits nothing but the program it was answered with. -/
theorem eq_of_commits {r : ExpressionReader} {s e : Int} {n size : Nat} {surrogate : Text}
    {program' : Program} {node' : ScriptNode} {ts : List Token} {cs : List Comment}
    (hs : r.surrogate? s e = some surrogate) (hp : r.parser n surrogate = .ok program)
    (h : program.Parenthesised start size surrogate.length node inner)
    (hc : r.Commits s e n program' node' ts cs) : program' = program ∧ node' = node := by
  obtain ⟨surrogate', hs', hv⟩ := hc.accepted
  rw [hs] at hs'
  cases hs'
  simp only [verdict, hp, unwrapped?_of_parenthesised h, Except.ok.injEq, Prod.mk.injEq] at hv
  exact ⟨hv.1.symm, hv.2.symm⟩

/-- The anchored tokens of a list go along with it. -/
theorem forall₂_anchoredAs {r : ExpressionReader} {d : Decoded} {ts : List Token}
    (h : inner.mapM (r.anchorToken start d) = .ok ts) :
    List.Forall₂ (Token.AnchoredAs d start) inner ts := by
  refine (mapM_eq_ok_iff.1 h).imp fun t t' ht => ?_
  obtain ⟨p, hp, rfl⟩ := anchorToken_eq_ok_iff.1 ht
  obtain ⟨h1, h2⟩ := range_of_sourcePlace hp
  exact ⟨rfl, rfl, h1, h2⟩

/-- **Anchored tokens are not empty and lie inside the code.** -/
theorem span_of_anchoredAs (hstop : stop ≤ text.length) (hle : start ≤ stop) {t t' : Token}
    (hs : start ≤ t.range.start) (hne : t.range.start < t.range.stop)
    (he : t.range.stop ≤ start + (Decoded.ofText (text.slice start stop)).chars.length)
    (h : t.AnchoredAs (.ofText (text.slice start stop)) start t') :
    start ≤ t'.range.start ∧ t'.range.start < t'.range.stop ∧ t'.range.stop ≤ stop := by
  have hlt := Decoded.rawStart_lt_rawStop (t := text.slice start stop)
    (i := t.range.start - start) (j := t.range.stop - start) (by omega) (by omega)
  have hbound := Decoded.rawStop_le (t := text.slice start stop) (j := t.range.stop - start)
    (by omega)
  rw [length_code hstop hle] at hbound
  rw [h.starts, h.stops]
  omega

/-- **Anchored tokens stay apart unless a reference joins them.** -/
theorem before_iff_of_anchoredAs {raw : Text} {a a' b b' : Token}
    (ha : start ≤ a.range.start) (hne : a.range.start < a.range.stop)
    (hb : b.range.start < b.range.stop)
    (he : b.range.stop ≤ start + (Decoded.ofText raw).chars.length)
    (haa : a.AnchoredAs (.ofText raw) start a') (hbb : b.AnchoredAs (.ofText raw) start b')
    (hab : a.Before b) :
    ¬ (Decoded.ofText raw).Joined (a.range.stop - 1 - start) (b.range.start - start) ↔
      a'.Before b' := by
  unfold Token.Before at *
  rw [haa.stops, hbb.starts, show a.range.stop - 1 - start = a.range.stop - start - 1 by omega,
    ← Decoded.rawStop_le_rawStart_iff (by omega) (by omega) (by omega)]
  omega

/-- **What goes into the store** when inner tokens are anchored: as many, in
the same order, each of them not empty and inside the code. -/
theorem anchored_of_mapM {r : ExpressionReader} {ts : List Token} {size : Nat}
    (hstop : stop ≤ text.length) (hle : start ≤ stop)
    (h : program.Parenthesised start (Decoded.ofText (text.slice start stop)).chars.length size node
      inner)
    (ht : inner.mapM (r.anchorToken start (.ofText (text.slice start stop))) = .ok ts) :
    List.Forall₂ (Token.AnchoredAs (.ofText (text.slice start stop)) start) inner ts ∧
      (∀ t ∈ ts, start ≤ t.range.start ∧ t.range.start < t.range.stop ∧ t.range.stop ≤ stop) ∧
      ((inner.Pairwise fun a b => ¬ (Decoded.ofText (text.slice start stop)).Joined
        (a.range.stop - 1 - start) (b.range.start - start)) ↔ ts.Pairwise Token.Before) := by
  have hall := forall₂_anchoredAs ht
  have hboth := (List.forall₂_and_left (p := fun t => t ∈ inner) inner ts).2 ⟨fun _ => id, hall⟩
  refine ⟨hall, ?_, pairwise_iff_of_forall₂ hboth h.ordered ?_⟩
  · intro t' ht'
    obtain ⟨t, hmem, hta⟩ : ∃ t, t ∈ inner ∧ t.AnchoredAs _ start t' := by
      obtain ⟨i, hi, rfl⟩ := List.getElem_of_mem ht'
      have hlen := hall.length_eq
      exact ⟨inner[i], List.getElem_mem _, hall.get (by omega) hi⟩
    obtain ⟨h1, h2⟩ := h.inside t (List.mem_append_left _ hmem)
    exact span_of_anchoredAs hstop hle h1 (h.nonempty t hmem) h2 hta
  · rintro a a' b b' ⟨ha, haa⟩ ⟨hb, hbb⟩ hab
    exact before_iff_of_anchoredAs (h.inside a (List.mem_append_left _ ha)).1 (h.nonempty a ha)
      (h.nonempty b hb) (h.inside b (List.mem_append_left _ hb)).2 haa hbb hab

/-- A program in which no reference is divided gets to its commit. -/
theorem exists_commits {n : Nat} {surrogate : Text} (hstart : 0 < start) (hle : start ≤ stop)
    (hstop : stop ≤ text.length)
    (hs : (ofText text parser reporter).surrogate? start stop = some surrogate)
    (hp : parser n surrogate = .ok program)
    (h : program.Parenthesised start (Decoded.ofText (text.slice start stop)).chars.length
      surrogate.length node inner)
    (hu : ∀ c ∈ program.comments, c.range.start = c.range.stop →
      ¬ (Decoded.ofText (text.slice start stop)).Omits (c.range.start - start)) :
    ∃ ts cs, (ofText text parser reporter).Commits start stop n program node ts cs := by
  obtain ⟨hinner, hwrapped⟩ := inner_of_parenthesised h
  have hplace : ∀ t ∈ inner ++ program.comments,
      (t.range.start = t.range.stop →
        ¬ (Decoded.ofText (text.slice start stop)).Omits (t.range.start - start)) →
      ∃ p, (ofText text parser reporter).sourcePlace start
        ((ofText text parser reporter).code start stop) t.range = .ok p := fun t ht hempty =>
    (sourcePlace_ok_iff hstop hle rfl (h.inside t ht).1 (h.inside t ht).2).2 hempty
  obtain ⟨ts, hts⟩ : ∃ ts, program.inner.mapM ((ofText text parser reporter).anchorToken start
      ((ofText text parser reporter).code start stop)) = .ok ts := by
    rw [hinner, exists_mapM_eq_ok_iff]
    intro t ht
    obtain ⟨p, hp⟩ := hplace t (List.mem_append_left _ ht) fun he =>
      absurd he (Nat.ne_of_lt (h.nonempty t ht))
    exact ⟨_, anchorToken_eq_ok_iff.2 ⟨p, hp, rfl⟩⟩
  obtain ⟨cs, hcs⟩ : ∃ cs, program.comments.mapM ((ofText text parser reporter).anchorComment start
      ((ofText text parser reporter).code start stop)) = .ok cs := by
    rw [exists_mapM_eq_ok_iff]
    intro c hc
    obtain ⟨p, hp⟩ := hplace c (List.mem_append_right _ hc) (hu c hc)
    exact ⟨_, anchorComment_eq_ok_iff.2 ⟨p, hp, rfl⟩⟩
  have hverdict : (ofText text parser reporter).verdict n surrogate = .ok (.ok (program, node)) := by
    have hp' : (ofText text parser reporter).parser n surrogate = .ok program := hp
    simp only [verdict, hp', unwrapped?_of_parenthesised h]
  exact ⟨ts, cs, ⟨by omega, by omega, Int.ofNat_le.2 hstop⟩, ⟨surrogate, hs, hverdict⟩, hwrapped,
    hts, hcs⟩

/-- **A call on code in its place, answered with one parenthesised
expression**: the code lies inside the source behind some character that
ends no line, and the store ends before it. -/
structure Answered (text : Text) (parser : ScriptParser) (reporter : String) (l : Ledger)
    (start stop : Nat) (program : Program) (node : ScriptNode) (inner : List Token) : Prop where
  start_pos : 0 < start
  start_le_stop : start ≤ stop
  stop_le : stop ≤ text.length
  room : ∃ o < start, ∃ c, text[o]? = some c ∧ Text.isTerminator c = false
  last : ∀ t, l.store.tokens.getLast? = some t → t.range.stop ≤ start
  answer : ∀ surrogate, (ofText text parser reporter).surrogate? start stop = some surrogate →
    parser l.asked.length surrogate = .ok program ∧
      program.Parenthesised start (Decoded.ofText (text.slice start stop)).text.length
        surrogate.length node inner

/-- The text handed over and the answer to it. -/
theorem Answered.exists_surrogate
    (h : Answered text parser reporter l start stop program node inner) :
    ∃ surrogate, (ofText text parser reporter).surrogate? start stop = some surrogate ∧
      parser l.asked.length surrogate = .ok program ∧
      program.Parenthesised start (Decoded.ofText (text.slice start stop)).chars.length
        surrogate.length node inner := by
  obtain ⟨surrogate, hs⟩ : ∃ surrogate,
      (ofText text parser reporter).surrogate? start stop = some surrogate := by
    obtain ⟨o, ho, c, hc, hterm⟩ := h.room
    refine exists_wrapped _ ⟨c, ?_, hterm⟩
    rw [Int.toNat_natCast]
    exact List.mem_of_getElem? ((List.getElem?_take_of_lt ho).trans hc)
  obtain ⟨hp, hprogram⟩ := h.answer surrogate hs
  rw [Decoded.length_text] at hprogram
  exact ⟨surrogate, hs, hp, hprogram⟩

/-- The call commits the answer, or nothing. -/
theorem Answered.of_commits (h : Answered text parser reporter l start stop program node inner)
    {program' : Program} {node' : ScriptNode} {ts : List Token} {cs : List Comment}
    (hc : (ofText text parser reporter).Commits start stop l.asked.length program' node' ts cs) :
    program' = program ∧ node' = node ∧ inner.mapM ((ofText text parser reporter).anchorToken
      start ((ofText text parser reporter).code start stop)) = .ok ts := by
  obtain ⟨surrogate, hs, hp, hprogram⟩ := h.exists_surrogate
  obtain ⟨rfl, rfl⟩ := eq_of_commits hs hp hprogram hc
  exact ⟨rfl, rfl, (inner_of_parenthesised hprogram).1 ▸ hc.tokens⟩

/-- **The store accepts the anchored tokens** when no reference is divided
between two of them: the store ends before the code, so it is only among
themselves that they can clash. -/
theorem Answered.pushAll_eq_none_iff
    (h : Answered text parser reporter l start stop program node inner) {ts : List Token}
    (hts : inner.mapM ((ofText text parser reporter).anchorToken start
      ((ofText text parser reporter).code start stop)) = .ok ts) :
    (l.store.pushAll ts).2 = none ↔ (l.store.isSealed = true → inner = []) ∧
      inner.Pairwise fun a b => ¬ (Decoded.ofText (text.slice start stop)).Joined
        (a.range.stop - 1 - start) (b.range.start - start) := by
  obtain ⟨surrogate, -, -, hprogram⟩ := h.exists_surrogate
  obtain ⟨hall, hspan, hpair⟩ := anchored_of_mapM h.stop_le h.start_le_stop hprogram hts
  have hnil : inner = [] ↔ ts = [] := by
    rw [← List.length_eq_zero_iff, ← List.length_eq_zero_iff, hall.length_eq]
  rw [TokenStore.pushAll_eq_none_iff, hpair, hnil]
  refine and_congr_right fun _ => ⟨fun h => (List.pairwise_append.1 h).2.1, fun hordered => ?_⟩
  refine List.pairwise_append.2 ⟨l.store.ordered, hordered, fun t ht t' ht' => ?_⟩
  exact (TokenStore.stop_le_of_getLast? h.last t ht).trans (hspan t' ht').1

/-- The expression is anchored unless an omitted reference stands where one of
its nodes is empty. -/
theorem Answered.exists_anchorNode_iff
    (h : Answered text parser reporter l start stop program node inner) :
    (∃ node', (ofText text parser reporter).anchorNode start
        ((ofText text parser reporter).code start stop) node = .ok node') ↔
      ∀ x ∈ node.walk, x.range.start = x.range.stop →
        ¬ (Decoded.ofText (text.slice start stop)).Omits (x.range.start - start) := by
  obtain ⟨surrogate, -, -, hprogram⟩ := h.exists_surrogate
  rw [ExpressionReader.exists_anchorNode_iff]
  refine forall₂_congr fun x hx => ?_
  obtain ⟨h1, h2⟩ := hprogram.nodes x hx
  exact sourcePlace_ok_iff h.stop_le h.start_le_stop rfl h1 h2

/-- **A parenthesised expression is returned exactly when no reference is
divided**, unless there are tokens and the store takes none. Then one
token goes in for each inner one, in the same order and with its kind and
meaning, not empty, inside the code and apart from the others. -/
theorem read_returns_iff (h : Answered text parser reporter l start stop program node inner) :
    ((∃ expression, (l.run ((ofText text parser reporter).read start stop)).2 =
        .ok (.ok expression)) ↔
      program.Undivided (.ofText (text.slice start stop)) start node inner ∧
        (l.store.isSealed = true → inner = [])) ∧
      ∀ expression, (l.run ((ofText text parser reporter).read start stop)).2 =
          .ok (.ok expression) →
        ∃ new, (l.run ((ofText text parser reporter).read start stop)).1.store.tokens =
            l.store.tokens ++ new ∧
          List.Forall₂ (Token.AnchoredAs (.ofText (text.slice start stop)) start) inner new ∧
          (∀ t ∈ new, start ≤ t.range.start ∧ t.range.start < t.range.stop ∧
            t.range.stop ≤ stop) ∧
          new.Pairwise Token.Before := by
  obtain ⟨surrogate, hs, hp, hprogram⟩ := h.exists_surrogate
  rw [exists_run_eq_ok_iff]
  refine ⟨⟨?_, ?_⟩, ?_⟩
  · rintro ⟨program', node', ts, cs, hc, hall, hnode⟩
    obtain ⟨rfl, rfl, hts⟩ := h.of_commits hc
    obtain ⟨hsealed, hpair⟩ := (h.pushAll_eq_none_iff hts).1 hall
    refine ⟨⟨hpair, fun c hmem => ?_, h.exists_anchorNode_iff.1 hnode⟩, hsealed⟩
    -- a comment that is anchored has a place in the source
    obtain ⟨c', hc'⟩ := exists_mapM_eq_ok_iff.1 ⟨cs, hc.comments⟩ c hmem
    obtain ⟨p, hp, -⟩ := anchorComment_eq_ok_iff.1 hc'
    obtain ⟨h1, h2⟩ := hprogram.inside c (List.mem_append_right _ hmem)
    exact (sourcePlace_ok_iff h.stop_le h.start_le_stop rfl h1 h2).1 ⟨p, hp⟩
  · rintro ⟨hu, hsealed⟩
    obtain ⟨ts, cs, hc⟩ : ∃ ts cs, (ofText text parser reporter).Commits start stop l.asked.length
        program node ts cs :=
      exists_commits h.start_pos h.start_le_stop h.stop_le hs hp hprogram hu.comments
    obtain ⟨-, -, hts⟩ := h.of_commits hc
    exact ⟨program, node, ts, cs, hc, (h.pushAll_eq_none_iff hts).2 ⟨hsealed, hu.tokens⟩,
      h.exists_anchorNode_iff.2 hu.nodes⟩
  · intro expression hok
    obtain ⟨program', node', ts, cs, hc, hall, -⟩ := exists_run_eq_ok_iff.1 ⟨expression, hok⟩
    obtain ⟨rfl, rfl, hts⟩ := h.of_commits hc
    obtain ⟨hanchored, hspan, hpair⟩ := anchored_of_mapM h.stop_le h.start_le_stop hprogram hts
    obtain ⟨taken, -, htokens, -, htaken⟩ := l.store.pushAll_tokens ts
    refine ⟨ts, ?_, hanchored, hspan, hpair.1 ((h.pushAll_eq_none_iff hts).1 hall).2⟩
    rw [hc.run_eq.1, htokens, htaken hall]

namespace LessThan

/-- The source in which a reference stands for `<` alone. -/
def apart : Text := "<p>{{a&lt;b}}</p>".toList

/-- What the two spellings of the comparison decode to. -/
theorem chars_eq :
    (Decoded.ofText (joined.slice 5 10)).chars = [⟨'a', 0, 1⟩, ⟨'<', 1, 5⟩, ⟨'b', 1, 5⟩] ∧
      (Decoded.ofText (apart.slice 5 11)).chars = [⟨'a', 0, 1⟩, ⟨'<', 1, 5⟩, ⟨'b', 5, 6⟩] := by
  decide +kernel

/-- The answer is one parenthesised expression. -/
theorem parenthesised : LessThan.program.Parenthesised 5 3 9 LessThan.node LessThan.inner where
  body := ⟨_, group, [], rfl, rfl, rfl, rfl, rfl, rfl⟩
  tokens := ⟨_, _, rfl⟩
  nonempty := by decide
  ordered := by decide
  inside := by decide
  nodes := by decide

/-- Both calls are answered with the parenthesised comparison. -/
theorem answered {text : Text} {stop : Nat} (hstop : 5 ≤ stop ∧ stop ≤ text.length)
    (hbefore : text.take 5 = ['<', 'p', '>', '{', '{'])
    (hcode : (Decoded.ofText (text.slice 5 stop)).text = ['a', '<', 'b']) :
    Answered text LessThan.parser "" {} 5 stop LessThan.program LessThan.node LessThan.inner where
  start_pos := by decide
  start_le_stop := hstop.1
  stop_le := hstop.2
  room := by
    refine ⟨0, by decide, '<', ?_, by decide⟩
    rw [← List.getElem?_take_of_lt (show 0 < 5 by decide), hbefore]
    rfl
  last := fun t ht => by cases ht
  answer := by
    intro surrogate hs
    refine ⟨rfl, ?_⟩
    have hlead : wrapped? (text.take 5) (Decoded.ofText (text.slice 5 stop)).text =
        some surrogate := hs
    rw [hbefore, hcode] at hlead
    cases hlead
    exact (congrArg List.length hcode : _ = 3) ▸ parenthesised

end LessThan

/-- The comparison is returned where the reference stands for `<` alone. -/
theorem read_returns_comparison :
    ∃ expression, (Ledger.run {} ((ofText LessThan.apart LessThan.parser "").read 5 11)).2 =
      .ok (.ok expression) := by
  have hchars := LessThan.chars_eq.2
  have hcode : (Decoded.ofText (LessThan.apart.slice 5 11)).text = ['a', '<', 'b'] := by
    rw [Decoded.text, hchars]
    rfl
  have hanswered : Answered LessThan.apart LessThan.parser "" {} 5 11 LessThan.program LessThan.node
      LessThan.inner := LessThan.answered (by decide) rfl hcode
  refine (read_returns_iff hanswered).1.2
    ⟨⟨?_, fun x hx => absurd hx List.not_mem_nil, ?_⟩, fun hs => by cases hs⟩
  · simp [Decoded.Joined, hchars, LessThan.inner]
  · have hne : ∀ x ∈ LessThan.node.walk, x.range.start ≠ x.range.stop := by decide
    intro x hx he
    exact absurd he (hne x hx)

/-- **Not every well-behaved program is returned**: where one reference stands
for `<b`, the tokens of the answer are anchored onto the same source. -/
theorem comparison_not_returned :
    ¬ ∀ (text : Text) (parser : ScriptParser) (reporter : String) (l : Ledger) (start stop : Nat)
        (program : Program) (node : ScriptNode) (inner : List Token),
      Answered text parser reporter l start stop program node inner →
        ∃ expression, (l.run ((ofText text parser reporter).read start stop)).2 =
          .ok (.ok expression) := by
  intro h
  have hcode : (Decoded.ofText (LessThan.joined.slice 5 10)).text = ['a', '<', 'b'] := by
    rw [Decoded.text, LessThan.chars_eq.1]
    rfl
  obtain ⟨expression, hok⟩ := h _ _ _ _ _ 10 _ _ _ (LessThan.answered (by decide) rfl hcode)
  have hfails := LessThan.run_joined.2
  erw [hok] at hfails
  cases hfails

end ExpressionReader

end Template

end SingleFile
