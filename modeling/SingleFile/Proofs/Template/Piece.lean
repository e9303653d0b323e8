import SingleFile.Proofs.Emission
import SingleFile.Proofs.Span
import SingleFile.Template

/-!
# Pieces — what a reading of markup accounts for

A reading of well-formed markup does a list of things one after the
other: it emits a token, a comment or an event, or reads some code.
`Piece` names them and `replay` does them, so `Spells` reduces a reading
to its list. `Layout` is the layout of such a list over the source: its
spans lie in order between two offsets and leave out only what is free,
or else two of them clash in a slash.
-/

namespace SingleFile

namespace Template

/-- One thing that a reading does. -/
inductive Piece
  | token (kind : TokenKind) (start stop : Nat)
  | comment (data : Text) (start stop : Nat)
  | skipped (name : Text) (start : Int)
  | code (start stop : Nat)

/-- Some character before an offset ends no line, so that an opening
parenthesis can take its place. -/
def Room (t : Text) (offset : Nat) : Prop :=
  ∃ o < offset, ∃ c, t[o]? = some c ∧ Text.isTerminator c = false

/-- There is still room further on. -/
theorem Room.mono {t : Text} {a b : Nat} (h : Room t a) (hab : a ≤ b) : Room t b := by
  obtain ⟨o, ho, hc⟩ := h
  exact ⟨o, by omega, hc⟩

namespace Piece

/-- What a piece stands for. -/
def emission (c : Context) : Piece → Emission Unit
  | token kind start stop => c.token kind start stop
  | comment data start stop => c.readComment data ⟨start, stop, 0, 0⟩
  | skipped name start => Emission.emit (.event (.entrySkipped c.reader.reporter name start))
  | code start stop => c.reader.read start stop >>= fun _ => pure ()

/-- A piece lies inside the source; code has room for a parenthesis before it. -/
def InText (t : Text) : Piece → Prop
  | token _ start stop => start < stop ∧ stop ≤ t.length
  | comment _ start stop => start ≤ stop ∧ stop ≤ t.length
  | skipped _ _ => True
  | code start stop => start ≤ stop ∧ stop ≤ t.length ∧ Room t start

/-- The offsets that a piece claims. Only tokens do when `wide` is false. -/
def span? (wide : Bool) : Piece → Option (Nat × Nat)
  | token _ start stop => some (start, stop)
  | comment _ start stop | code start stop => if wide then some (start, stop) else none
  | skipped _ _ => none

/-- The offsets of the code that a piece reads. -/
def code? : Piece → Option (Nat × Nat)
  | code start stop => some (start, stop)
  | _ => none

end Piece

/-! ## Replays -/

/-- Several pieces in order. -/
def replay (c : Context) : List Piece → Emission Unit
  | [] => pure ()
  | p :: ps => do
    p.emission c
    replay c ps

/-- Replays in sequence. -/
theorem replay_append (c : Context) (ps qs : List Piece) :
    replay c (ps ++ qs) = replay c ps >>= fun _ => replay c qs := by
  induction ps with
  | nil => exact (pure_bind () fun _ => replay c qs).symm
  | cons p ps ih => simp only [List.cons_append, replay, ih, bind_assoc]

/-- **A reading does just what some pieces stand for**, whatever it returns. -/
def Spells (c : Context) (m : Emission α) (ps : List Piece) : Prop :=
  (m >>= fun _ => pure ()) = replay c ps

variable {α β : Type} {c : Context} {m : Emission α} {f : α → Emission β} {ps qs : List Piece}

/-- Readings in sequence. -/
theorem Spells.bind (hm : Spells c m ps) (hf : ∀ v, Spells c (f v) qs) :
    Spells c (m >>= f) (ps ++ qs) := by
  have hf' : ∀ v, (f v >>= fun _ => pure ()) = replay c qs := hf
  unfold Spells
  rw [bind_assoc, replay_append, ← hm, bind_assoc]
  simp only [hf', pure_bind]

/-- A reading after which nothing more is done. -/
theorem Spells.bind_pure (hm : Spells c m ps) (g : α → β) :
    Spells c (m >>= fun v => pure (g v)) ps := by
  unfold Spells
  rw [bind_assoc, ← hm]
  rfl

/-- A value alone. -/
theorem spells_pure (v : α) : Spells c (pure v) [] := rfl

/-- One piece alone. -/
theorem spells_emission (p : Piece) : Spells c (p.emission c) [p] := rfl

/-- What a reading that spells some pieces emits, and whether it ends well. -/
theorem Spells.apply_eq (h : Spells c m ps) (n : Nat) :
    (m n).effects = (replay c ps n).effects ∧
      ((∃ v, (m n).result = .ok v) ↔ (replay c ps n).result = .ok ()) := by
  have hn : (m >>= fun _ => pure ()) n = replay c ps n := congrFun h n
  rw [Emission.bind_pure_apply] at hn
  rw [← hn]
  cases (m n).result <;> simp [Except.map]

/-! ## Layouts -/

/-- The offsets that some pieces claim. -/
def spans (wide : Bool) (ps : List Piece) : List (Nat × Nat) := ps.filterMap (Piece.span? wide)

/-- The spans of pieces in sequence. -/
theorem spans_append (wide : Bool) (ps qs : List Piece) :
    spans wide (ps ++ qs) = spans wide ps ++ spans wide qs := List.filterMap_append

/-- **The layout of pieces from `start` to `stop`.** Their spans lie there and
in order when it `fits`; otherwise two of them hold the same slash.
An offset that no span holds is `free`. -/
structure Layout (wide : Bool) (t : Text) (free : Nat → Prop) (start stop : Nat) (fits : Prop)
    (ps : List Piece) : Prop where
  ordered : start ≤ stop
  inText : ∀ p ∈ ps, p.InText t
  within : ∀ s ∈ spans wide ps, start ≤ s.1 ∧ s.2 ≤ stop
  apart : fits → (spans wide ps).Pairwise fun a b => a.2 ≤ b.1
  clash : ¬ fits → ∃ o, t[o]? = some '/' ∧ 2 ≤ (spans wide ps).countP (holds o)
  covered : ∀ o, start ≤ o → o < stop → free o ∨ ∃ s ∈ spans wide ps, holds o s

namespace Layout

variable {wide : Bool} {t : Text} {free : Nat → Prop} {start mid stop : Nat} {P Q : Prop}

/-- Nothing at all, where everything is free. -/
theorem gap (h : start ≤ stop) (hfree : ∀ o, start ≤ o → o < stop → free o) :
    Layout wide t free start stop True [] where
  ordered := h
  inText _ hp := absurd hp List.not_mem_nil
  within _ hs := absurd hs List.not_mem_nil
  apart _ := .nil
  clash h := absurd trivial h
  covered o h1 h2 := .inl (hfree o h1 h2)

/-- The spans of two layouts that may overlap lie where the layouts do. -/
theorem within_append {mid' : Nat} (h : Layout wide t free start mid P ps)
    (h' : Layout wide t free mid' stop Q qs) (h1 : start ≤ mid') (h2 : mid ≤ stop) :
    ∀ s ∈ spans wide (ps ++ qs), start ≤ s.1 ∧ s.2 ≤ stop := by
  intro s hs
  rw [spans_append] at hs
  rcases List.mem_append.1 hs with hs | hs
  · have := h.within s hs
    omega
  · have := h'.within s hs
    omega

/-- They leave nothing out between them. -/
theorem covered_append {mid' : Nat} (h : Layout wide t free start mid P ps)
    (h' : Layout wide t free mid' stop Q qs) (hle : mid' ≤ mid) :
    ∀ o, start ≤ o → o < stop → free o ∨ ∃ s ∈ spans wide (ps ++ qs), holds o s := by
  intro o h1 h2
  rw [spans_append]
  rcases Nat.lt_or_ge o mid with ho | ho
  · exact (h.covered o h1 ho).imp_right fun hheld =>
      hheld.imp fun s hs => ⟨List.mem_append_left _ hs.1, hs.2⟩
  · exact (h'.covered o (Nat.le_trans hle ho) h2).imp_right fun hheld =>
      hheld.imp fun s hs => ⟨List.mem_append_right _ hs.1, hs.2⟩

/-- **Layouts join.** -/
theorem append (h : Layout wide t free start mid P ps) (h' : Layout wide t free mid stop Q qs) :
    Layout wide t free start stop (P ∧ Q) (ps ++ qs) where
  ordered := Nat.le_trans h.ordered h'.ordered
  inText p hp := (List.mem_append.1 hp).elim (h.inText p) (h'.inText p)
  within := h.within_append h' h.ordered h'.ordered
  apart hpq := by
    rw [spans_append]
    exact List.pairwise_append.2 ⟨h.apart hpq.1, h'.apart hpq.2, fun a ha b hb =>
      Nat.le_trans (h.within a ha).2 (h'.within b hb).1⟩
  clash hpq := by
    -- one of the two clashes, and what the other claims only adds to that
    rcases Classical.not_and_iff_not_or_not.1 hpq with hp | hq
    · obtain ⟨o, ho, hcount⟩ := h.clash hp
      exact ⟨o, ho, by rw [spans_append, List.countP_append]; omega⟩
    · obtain ⟨o, ho, hcount⟩ := h'.clash hq
      exact ⟨o, ho, by rw [spans_append, List.countP_append]; omega⟩
  covered := h.covered_append h' (Nat.le_refl mid)

/-- The same condition said otherwise. -/
theorem congr (h : Layout wide t free start stop P ps) (hPQ : P ↔ Q) :
    Layout wide t free start stop Q ps := (propext hPQ : P = Q) ▸ h

/-- Layouts with no clash join without one. -/
theorem append_true (h : Layout wide t free start mid True ps)
    (h' : Layout wide t free mid stop True qs) : Layout wide t free start stop True (ps ++ qs) :=
  (h.append h').congr (and_self_iff)

/-- A layout that ends earlier, when its spans do. -/
theorem shrink (h : Layout wide t free start stop P ps) {stop' : Nat} (h1 : start ≤ stop')
    (h2 : stop' ≤ stop) (hs : ∀ s ∈ spans wide ps, s.2 ≤ stop') :
    Layout wide t free start stop' P ps where
  ordered := h1
  inText := h.inText
  within s hmem := ⟨(h.within s hmem).1, hs s hmem⟩
  apart := h.apart
  clash := h.clash
  covered o ho1 ho2 := h.covered o ho1 (by omega)

/-- **Layouts that share a slash clash there.** -/
theorem overlap {mid' : Nat} (h : Layout wide t free start mid True ps)
    (h' : Layout wide t free mid' stop True qs) (h1 : start ≤ mid') (h2 : mid' ≤ mid)
    (h3 : mid ≤ stop) {o : Nat} (ho : t[o]? = some '/') (hps : ∃ s ∈ spans wide ps, holds o s)
    (hqs : ∃ s ∈ spans wide qs, holds o s) : Layout wide t free start stop False (ps ++ qs) where
  ordered := Nat.le_trans h.ordered h3
  inText p hp := (List.mem_append.1 hp).elim (h.inText p) (h'.inText p)
  within := h.within_append h' h1 h3
  apart h := h.elim
  clash _ := by
    refine ⟨o, ho, ?_⟩
    have h4 := List.countP_pos_iff.2 hps
    have h5 := List.countP_pos_iff.2 hqs
    rw [spans_append, List.countP_append]
    omega
  covered := h.covered_append h' h2

/-- One piece that claims all from `start` to `stop`. -/
theorem one {p : Piece} (hs : p.span? wide = some (start, stop)) (h : start ≤ stop)
    (hp : p.InText t) : Layout wide t free start stop True [p] where
  ordered := h
  inText q hq := List.mem_singleton.1 hq ▸ hp
  within s hmem := by
    simp only [spans, List.filterMap_cons, hs, List.filterMap_nil, List.mem_singleton] at hmem
    subst hmem
    exact ⟨Nat.le_refl _, Nat.le_refl _⟩
  apart _ := by
    simp only [spans, List.filterMap_cons, hs, List.filterMap_nil]
    exact List.pairwise_singleton _ _
  clash h := absurd trivial h
  covered o h1 h2 := by
    simp only [spans, List.filterMap_cons, hs, List.filterMap_nil]
    exact .inr ⟨_, List.mem_singleton.2 rfl, decide_eq_true ⟨h1, h2⟩⟩

/-- One piece that claims nothing, where everything is free. -/
theorem one_free {p : Piece} (hs : p.span? wide = none) (h : start ≤ stop) (hp : p.InText t)
    (hfree : ∀ o, start ≤ o → o < stop → free o) : Layout wide t free start stop True [p] where
  ordered := h
  inText q hq := List.mem_singleton.1 hq ▸ hp
  within s hmem := by simp [spans, hs] at hmem
  apart _ := by simp [spans, hs]
  clash h := absurd trivial h
  covered o h1 h2 := .inl (hfree o h1 h2)

/-- A comment or code, which claims its offsets or stands where all is free. -/
theorem one_wide {p : Piece} (hs : p.span? wide = if wide then some (start, stop) else none)
    (h : start ≤ stop) (hp : p.InText t) (hnarrow : wide = false → ∀ o, free o) :
    Layout wide t free start stop True [p] := by
  cases wide with
  | true => exact one hs h hp
  | false => exact one_free hs h hp fun o _ _ => hnarrow rfl o

end Layout

end Template

end SingleFile
