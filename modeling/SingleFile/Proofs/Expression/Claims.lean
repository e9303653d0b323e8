import SingleFile.Proofs.Expression.InPlace
import SingleFile.Proofs.Span

/-!
# Expressions — what the tokens and comments of some code claim

A program that accounts for all of the code it was read from, each part
once, claims the source of that code when it is anchored: all of it but
places that stand for nothing but blanks, and each place once unless a
reference is divided between two of its tokens and comments.
-/

namespace SingleFile

/-- The tokens of a program inside its first and its last one, and its comments. -/
def Program.lexemes (p : Program) : List Token := p.inner ++ p.comments

/-- **A program accounts for some decoded code** that starts at an offset: its
tokens and comments lie in the code, apart from one another, and leave
out nothing but blanks. -/
structure Program.Tiles (p : Program) (start : Nat) (code : Text) : Prop where
  nonempty : ∀ t ∈ p.lexemes, t.range.start < t.range.stop
  inside : ∀ t ∈ p.lexemes, start ≤ t.range.start ∧ t.range.stop ≤ start + code.length
  apart : p.lexemes.Pairwise fun a b => Apart a.range.span b.range.span
  covers : ∀ i d, code[i]? = some d → Text.isBlank d = false →
    ∃ t ∈ p.lexemes, holds (start + i) t.range.span

/-- The code that an event reports as rejected. -/
def Event.rejected? : Event → Option (Nat × Nat)
  | .expressionRejected _ start stop _ => some (start.toNat, stop.toNat)
  | _ => none

namespace Template

/-- What an effect claims of the source: a token and a comment their ranges, a
rejected expression its code. -/
def Effect.claim? : Effect → Option (Nat × Nat)
  | .token t => some t.range.span
  | .comment c => some c.place.range.span
  | .event e => e.rejected?
  | .asked _ => none

/-- What some effects claim. -/
def claims (es : List Effect) : List (Nat × Nat) := es.filterMap Effect.claim?

/-- The claims of effects in sequence. -/
theorem claims_append (es fs : List Effect) : claims (es ++ fs) = claims es ++ claims fs :=
  List.filterMap_append

/-- Tokens claim their ranges. -/
@[simp] theorem claims_map_token (ts : List Token) :
    claims (ts.map .token) = ts.map (·.range.span) := by
  rw [claims, List.filterMap_map]
  exact congrFun (List.filterMap_eq_map (f := fun t : Token => t.range.span)) ts

/-- So do comments. -/
@[simp] theorem claims_map_comment (cs : List Comment) :
    claims (cs.map .comment) = cs.map (·.place.range.span) := by
  rw [claims, List.filterMap_map]
  exact congrFun (List.filterMap_eq_map (f := fun c : Comment => c.place.range.span)) cs

/-- The claims of effects are those of their tokens, their comments and their
events together. -/
theorem claims_perm (es : List Effect) :
    (claims es).Perm ((Effect.tokens es).map (·.range.span) ++
      ((Effect.comments es).map (·.place.range.span) ++
        (Effect.events es).filterMap Event.rejected?)) := by
  induction es with
  | nil => exact .nil
  | cons e es ih =>
    cases e with
    | token t => exact ih.cons _
    | comment c => exact (ih.cons _).trans List.perm_middle.symm
    | asked text => exact ih
    | event v =>
      have hclaims : claims (.event v :: es) = v.rejected?.toList ++ claims es := by
        cases h : v.rejected? <;> simp [claims, Effect.claim?, h]
      have hevents : (Effect.events (.event v :: es)).filterMap Event.rejected? =
          v.rejected?.toList ++ (Effect.events es).filterMap Event.rejected? := by
        cases h : v.rejected? <;> simp [Effect.events, h]
      rw [hclaims, hevents]
      exact (ih.append_left _).trans ((List.perm_append_comm_assoc _ _ _).trans
        ((List.perm_append_comm_assoc _ _ _).append_left _))

namespace ExpressionReader

variable {r : ExpressionReader} {n : Nat} {start stop : Nat} {program : Program} {raw : Text}

/-- Where a part of a program is anchored. -/
def anchoredSpan (d : Decoded) (start : Nat) (t : Token) : Nat × Nat :=
  (start + d.rawStart (t.range.start - start), start + d.rawStop (t.range.stop - start))

/-- No reference stands both for the end of one range and for the beginning of
another that follows it. -/
def Separates (d : Decoded) (start : Nat) (a b : Range) : Prop :=
  (a.stop ≤ b.start → ¬ d.Joined (a.stop - 1 - start) (b.start - start)) ∧
    (b.stop ≤ a.start → ¬ d.Joined (b.stop - 1 - start) (a.start - start))

/-- **No reference is divided** between two parts of an accepted program. -/
def Undivided (r : ExpressionReader) (n start stop : Nat) : Prop :=
  ∀ surrogate program node, r.surrogate? start stop = some surrogate →
    r.verdict n surrogate = .ok (.ok (program, node)) →
    program.lexemes.Pairwise fun a b => Separates (r.code start stop) start a.range b.range

/-! ## Anchored parts -/

/-- The claims of a commit are the anchored parts of its program. -/
theorem Commits.claims_eq {node : ScriptNode} {ts : List Token} {cs : List Comment}
    (h : r.Commits start stop n program node ts cs) :
    claims (r.read start stop n).effects =
      program.lexemes.map (anchoredSpan (r.code start stop) start) := by
  obtain ⟨surrogate, -, hread⟩ := h.read_eq
  have hts : ts.map (·.range.span) = program.inner.map (anchoredSpan (r.code start stop) start) :=
    map_eq_of_mapM (fun t t' ht => by
      obtain ⟨p, hp, rfl⟩ := anchorToken_eq_ok_iff.1 ht
      exact Prod.ext (range_of_sourcePlace hp).1 (range_of_sourcePlace hp).2) h.tokens
  have hcs : cs.map (·.place.range.span) =
      program.comments.map (anchoredSpan (r.code start stop) start) :=
    map_eq_of_mapM (fun t x hx => by
      obtain ⟨p, hp, rfl⟩ := anchorComment_eq_ok_iff.1 hx
      exact Prod.ext (range_of_sourcePlace hp).1 (range_of_sourcePlace hp).2) h.comments
  rw [hread, Program.lexemes, List.map_append, ← hts, ← hcs, ← claims_map_token,
    ← claims_map_comment, ← claims_append]
  rfl

/-- Anchored parts lie inside the code. -/
theorem anchoredSpan_inside {t : Token}
    (h : t.range.stop ≤ start + (Decoded.ofText raw).chars.length) :
    start ≤ (anchoredSpan (.ofText raw) start t).1 ∧
      (anchoredSpan (.ofText raw) start t).2 ≤ start + raw.length := by
  have := Decoded.rawStop_le (t := raw) (j := t.range.stop - start) (by omega)
  exact ⟨Nat.le_add_right _ _, Nat.add_le_add_left this start⟩

/-- Anchored parts in order stay apart unless a reference joins them. -/
theorem apart_anchoredSpan_iff {a b : Token} (ha : start ≤ a.range.start)
    (hane : a.range.start < a.range.stop) (hbne : b.range.start < b.range.stop)
    (hb : b.range.stop ≤ start + (Decoded.ofText raw).chars.length)
    (hab : a.range.stop ≤ b.range.start) :
    Apart (anchoredSpan (.ofText raw) start a) (anchoredSpan (.ofText raw) start b) ↔
      ¬ (Decoded.ofText raw).Joined (a.range.stop - 1 - start) (b.range.start - start) := by
  rw [show a.range.stop - 1 - start = a.range.stop - start - 1 by omega,
    ← Decoded.rawStop_le_rawStart_iff (by omega) (by omega) (by omega)]
  have := Decoded.rawStart_lt_rawStop (t := raw) (i := a.range.start - start)
    (j := b.range.stop - start) (by omega) (by omega)
  unfold Apart anchoredSpan
  omega

/-- **Anchored parts stay apart unless a reference is divided between them.** -/
theorem separates_iff {a b : Token} (hab : Apart a.range.span b.range.span)
    (ha : start ≤ a.range.start) (hane : a.range.start < a.range.stop)
    (ha' : a.range.stop ≤ start + (Decoded.ofText raw).chars.length)
    (hb : start ≤ b.range.start) (hbne : b.range.start < b.range.stop)
    (hb' : b.range.stop ≤ start + (Decoded.ofText raw).chars.length) :
    Separates (.ofText raw) start a.range b.range ↔
      Apart (anchoredSpan (.ofText raw) start a) (anchoredSpan (.ofText raw) start b) := by
  unfold Separates
  rcases hab with hab | hab
  · have hab : a.range.stop ≤ b.range.start := hab
    rw [imp_iff_right hab, and_iff_left fun h => by omega]
    exact (apart_anchoredSpan_iff ha hane hbne hb' hab).symm
  · have hab : b.range.stop ≤ a.range.start := hab
    rw [imp_iff_right hab, and_iff_right fun h => by omega]
    exact (apart_anchoredSpan_iff hb hbne hane ha' hab).symm.trans ⟨Apart.symm, Apart.symm⟩

/-- The parts of a program that accounts for some decoded code lie in it. -/
theorem inside_of_tiles (h : program.Tiles start (Decoded.ofText raw).text) {t : Token}
    (ht : t ∈ program.lexemes) : start ≤ t.range.start ∧ t.range.start < t.range.stop ∧
      t.range.stop ≤ start + (Decoded.ofText raw).chars.length := by
  obtain ⟨h1, h2⟩ := h.inside t ht
  rw [Decoded.length_text] at h2
  exact ⟨h1, h.nonempty t ht, h2⟩

/-- **Its anchored parts are apart** when no reference is divided between two. -/
theorem pairwise_anchoredSpan_iff (h : program.Tiles start (Decoded.ofText raw).text) :
    (program.lexemes.Pairwise fun a b => Separates (.ofText raw) start a.range b.range) ↔
      (program.lexemes.map (anchoredSpan (.ofText raw) start)).Pairwise Apart := by
  have hall : List.Forall₂ (fun t s => t ∈ program.lexemes ∧ s = anchoredSpan (.ofText raw) start t)
      program.lexemes (program.lexemes.map (anchoredSpan (.ofText raw) start)) := by
    rw [List.forall₂_map_right_iff, List.forall₂_same]
    exact fun t ht => ⟨ht, rfl⟩
  refine pairwise_iff_of_forall₂ hall h.apart fun a _ b _ ha hb hab => ?_
  obtain ⟨ha, rfl⟩ := ha
  obtain ⟨hb, rfl⟩ := hb
  obtain ⟨ha1, ha2, ha3⟩ := inside_of_tiles h ha
  obtain ⟨hb1, hb2, hb3⟩ := inside_of_tiles h hb
  exact separates_iff hab ha1 ha2 ha3 hb1 hb2 hb3

/-- An offset of the source that means something is claimed by the part that
covers what it means. -/
theorem exists_holds_of_not_silent {k : Nat}
    (h : program.Tiles start (Decoded.ofText raw).text) (hk : ¬ (Decoded.ofText raw).Silent k) :
    ∃ s ∈ program.lexemes.map (anchoredSpan (.ofText raw) start), holds (start + k) s = true := by
  simp only [Decoded.Silent, not_forall, Bool.not_eq_true] at hk
  obtain ⟨i, d, hd, h1, h2, hblank⟩ := hk
  obtain ⟨t, ht, hcover⟩ := h.covers i d hd hblank
  obtain ⟨h3, h4⟩ := h.inside t ht
  have hne := h.nonempty t ht
  -- the offset map is monotone, so what covers a decoded character covers its source
  rw [Decoded.length_text] at h4
  simp only [holds_eq_true, Range.span] at hcover
  have hstart := Decoded.rawStart_le_rawStart (t := raw) (i := t.range.start - start) (j := i)
    (by omega) (by omega)
  have hstop := Decoded.rawStop_le_rawStop (t := raw) (i := i + 1) (j := t.range.stop - start)
    (by omega) (by omega) (by omega)
  refine ⟨_, List.mem_map_of_mem ht, ?_⟩
  rw [holds_eq_true]
  unfold anchoredSpan
  dsimp only
  omega

/-! ## The code of a call -/

/-- **What a call claims of its code.** -/
structure CodeClaims (r : ExpressionReader) (n start stop : Nat) (cs : List (Nat × Nat)) : Prop where
  within : ∀ s ∈ cs, start ≤ s.1 ∧ s.2 ≤ stop
  apart : cs.Pairwise Apart ↔ r.Undivided n start stop
  covered : ∀ o, start ≤ o → o < stop →
    (r.code start stop).Silent (o - start) ∨ ∃ s ∈ cs, holds o s = true

/-- Rejected code is claimed as a whole. -/
theorem codeClaims_of_rejected {surrogate : Text} {e : SyntaxError} (ha : r.Admits start stop)
    (hs : r.surrogate? start stop = some surrogate)
    (hv : r.verdict n surrogate = .ok (.error e)) :
    r.CodeClaims n start stop (claims (r.read start stop n).effects) := by
  have hclaims : claims (r.read start stop n).effects = [(start, stop)] := by
    rw [read_of_surrogate ha hs, hv]
    rfl
  rw [hclaims]
  refine ⟨?_, iff_of_true (List.pairwise_singleton _ _) fun surrogate' program node hs' hv' => ?_,
    fun o h1 h2 => .inr ⟨_, List.mem_singleton.2 rfl, holds_eq_true.2 ⟨h1, h2⟩⟩⟩
  · intro s hmem
    rw [List.mem_singleton.1 hmem]
    exact ⟨Nat.le_refl _, Nat.le_refl _⟩
  · rw [hs, Option.some.injEq] at hs'
    rw [← hs', hv] at hv'
    cases hv'

/-- **Accepted code is claimed part by part.** -/
theorem Commits.codeClaims {node : ScriptNode} {ts : List Token} {cs : List Comment}
    (h : r.Commits start stop n program node ts cs)
    (htiles : program.Tiles start (r.code start stop).text) :
    r.CodeClaims n start stop (claims (r.read start stop n).effects) := by
  obtain ⟨surrogate, hs, hv⟩ := h.accepted
  obtain ⟨-, hle, hstop⟩ := h.admits
  rw [h.claims_eq]
  refine ⟨?_, ?_, fun o h1 h2 => ?_⟩
  · intro s hmem
    obtain ⟨t, ht, rfl⟩ := List.mem_map.1 hmem
    have hspec := anchoredSpan_inside (inside_of_tiles htiles ht).2.2
    rw [length_code (by omega) (by omega)] at hspec
    exact ⟨hspec.1, Nat.le_trans hspec.2 (by omega)⟩
  · refine (pairwise_anchoredSpan_iff htiles).symm.trans ⟨fun hpair => ?_, fun hu => hu _ _ _ hs hv⟩
    -- the program that the call commits is the only one accepted for its text
    intro surrogate' program' node' hs' hv'
    rw [hs, Option.some.injEq] at hs'
    rw [← hs', hv] at hv'
    cases hv'
    exact hpair
  · refine Classical.or_iff_not_imp_left.2 fun hsilent => ?_
    have hheld := exists_holds_of_not_silent htiles hsilent
    rwa [show start + (o - start) = o by omega] at hheld

/-- An accepted program is the reader's answer. -/
theorem parser_of_verdict {surrogate : Text} {node : ScriptNode}
    (hv : r.verdict n surrogate = .ok (.ok (program, node))) :
    r.parser n surrogate = .ok program := (verdict_eq_ok_iff.1 hv).1

/-- **A call that returns claims its code**, when its reader accounts for all of
the code that it accepts. -/
theorem codeClaims_of_ok {surrogate : Text} {v : Except SyntaxError ScriptNode}
    (ha : r.Admits start stop) (hs : r.surrogate? start stop = some surrogate)
    (htiles : ∀ program, r.parser n surrogate = .ok program →
      program.Tiles start (r.code start stop).text)
    (hok : (r.read start stop n).result = .ok v) :
    r.CodeClaims n start stop (claims (r.read start stop n).effects) := by
  -- a call that returns has committed a program or had its text rejected
  by_cases hcommits : ∃ program node ts cs, r.Commits start stop n program node ts cs
  · obtain ⟨program, node, ts, cs, hc⟩ := hcommits
    obtain ⟨surrogate', hs', hv⟩ := hc.accepted
    rw [hs, Option.some.injEq] at hs'
    subst hs'
    exact hc.codeClaims (htiles program (parser_of_verdict hv))
  · have hnone := (read_of_not_commits fun program node ts cs hc =>
      hcommits ⟨program, node, ts, cs, hc⟩).2.2
    cases hv : r.verdict n surrogate with
    | error f =>
      rw [read_of_surrogate ha hs, hv] at hok
      cases hok
    | ok answer =>
      cases answer with
      | error e => exact codeClaims_of_rejected ha hs hv
      | ok accepted =>
        refine absurd hok ?_
        cases v with
        | ok node => exact hnone node
        | error e =>
          rw [read_of_surrogate ha hs, hv]
          dsimp only
          cases (r.commit _ _ _ _ (n + 1)).result <;> simp [Except.map]

end ExpressionReader

end Template

end SingleFile
