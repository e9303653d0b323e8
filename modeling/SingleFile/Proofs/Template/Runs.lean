import SingleFile.Proofs.Template.Attributes

/-!
# Runs — text split at its interpolations

Interpolations are found from left to right, so their spans follow one
another (`Chained`) and each has room for its delimiters and a character
between them. A run of text then comes to the texts between them and
their expressions.
-/

namespace SingleFile

namespace Template

variable {opening closing t u : Text} {start stop : Nat}

/-! ## Where interpolations stand -/

/-- The first occurrence of a part leaves room for it. -/
theorem distanceTo?_le {part : Text} {n : Nat} (h : distanceTo? part t = some n) :
    n + part.length ≤ t.length := by
  induction t generalizing n with
  | nil =>
    simp only [distanceTo?] at h
    split at h
    · rename_i hp
      cases h
      simp [hp]
    · cases h
  | cons d t ih =>
    simp only [distanceTo?] at h
    split at h
    · rename_i hb
      cases h
      obtain ⟨rest, hrest⟩ := Option.isSome_iff_exists.1 hb
      rw [Text.dropLead?_eq_some_iff.1 hrest, List.length_append]
      omega
    · obtain ⟨m, hm, rfl⟩ := Option.map_eq_some_iff.1 h
      have := ih hm
      simp only [List.length_cons]
      omega

/-- An interpolation holds its delimiters and a character between them. -/
theorem interpolationSize?_spec {size : Nat} (h : interpolationSize? opening closing t = some size) :
    opening.length + 1 + closing.length ≤ size ∧ size ≤ t.length ∧ opening <+: t := by
  unfold interpolationSize? at h
  split at h
  · rename_i d body hlead
    obtain ⟨n, hn, rfl⟩ := Option.map_eq_some_iff.1 h
    have hle := distanceTo?_le hn
    rw [Text.dropLead?_eq_some_iff.1 hlead]
    refine ⟨by omega, ?_, List.prefix_append _ _⟩
    simp only [List.length_append, List.length_cons]
    omega
  · cases h

/-- **Interpolations in order** from `start` to `stop`: each begins with the
opening delimiter and has room for both delimiters and a character. -/
def Chained (t opening closing : Text) (start stop : Nat) : List (Nat × Nat) → Prop
  | [] => start ≤ stop
  | (first, last) :: rest =>
    start ≤ first ∧ first + opening.length + 1 + closing.length ≤ last ∧
      (∀ d, opening.head? = some d → t[first]? = some d) ∧ Chained t opening closing last stop rest

/-- What follows one offset follows any before it. -/
theorem Chained.mono {start' : Nat} {spans : List (Nat × Nat)}
    (h : Chained t opening closing start stop spans) (hle : start' ≤ start) :
    Chained t opening closing start' stop spans := by
  cases spans with
  | nil => exact Nat.le_trans hle h
  | cons s rest => exact ⟨Nat.le_trans hle h.1, h.2⟩

/-- They end where the text does, at the latest. -/
theorem Chained.le {spans : List (Nat × Nat)} (h : Chained t opening closing start stop spans) :
    start ≤ stop := by
  induction spans generalizing start with
  | nil => exact h
  | cons s rest ih =>
    obtain ⟨h1, h2, -, hrest⟩ := h
    have := ih hrest
    omega

/-- Each of them fits in. -/
theorem Chained.fits {spans : List (Nat × Nat)} (h : Chained t opening closing start stop spans)
    {s : Nat × Nat} (hs : s ∈ spans) :
    s.1 + opening.length + 1 + closing.length ≤ s.2 ∧ s.2 ≤ stop := by
  induction spans generalizing start with
  | nil => cases hs
  | cons s' rest ih =>
    obtain ⟨-, hsize, -, hrest⟩ := h
    rcases List.mem_cons.1 hs with rfl | hs
    · exact ⟨hsize, hrest.le⟩
    · exact ih hrest hs

/-- **Interpolations are in order.** -/
theorem chained_interpolationsFrom {offset skip : Nat} (hskip : skip ≤ u.length)
    (hu : ∀ i d, u[i]? = some d → t[offset + i]? = some d) :
    Chained t opening closing (offset + skip) (offset + u.length)
      (interpolationsFrom opening closing offset skip u) := by
  -- dropping the first character moves what is left of the text one place up
  have hshift : ∀ {offset : Nat} {d : Char} {u : Text},
      (∀ i e, (d :: u)[i]? = some e → t[offset + i]? = some e) →
      ∀ i e, u[i]? = some e → t[offset + 1 + i]? = some e := by
    intro offset d u hu i e he
    rw [show offset + 1 + i = offset + (i + 1) by omega]
    exact hu (i + 1) e he
  fun_induction interpolationsFrom opening closing offset skip u with
  | case1 offset skip => exact Nat.add_le_add_left hskip offset
  | case2 offset skip d u ih =>
    simp only [List.length_cons] at hskip ⊢
    rw [show offset + (skip + 1) = offset + 1 + skip by omega,
      show offset + (u.length + 1) = offset + 1 + u.length by omega]
    exact ih (by omega) (hshift hu)
  | case3 offset d u size hsize ih =>
    obtain ⟨h1, h2, hprefix⟩ := interpolationSize?_spec hsize
    simp only [List.length_cons] at h2 ⊢
    refine ⟨Nat.le_refl _, by omega, fun e he => ?_, ?_⟩
    · refine hu 0 e ?_
      rw [← List.head?_eq_getElem?]
      obtain ⟨rest, hrest⟩ := hprefix
      rw [← hrest, List.head?_append, he]
      rfl
    · rw [show offset + size = offset + 1 + (size - 1) by omega,
        show offset + (u.length + 1) = offset + 1 + u.length by omega]
      exact ih (by omega) (hshift hu)
  | case4 offset d u hsize ih =>
    simp only [List.length_cons]
    rw [show offset + (u.length + 1) = offset + 1 + u.length by omega]
    exact (ih (Nat.zero_le _) (hshift hu)).mono (by omega)

/-- Those between two offsets of a text. -/
theorem chained_interpolations (h : start ≤ stop) (hstop : stop ≤ t.length) :
    Chained t opening closing start stop (interpolations opening closing t start stop) := by
  unfold interpolations
  simp only [Int.toNat_natCast, Nat.min_eq_left hstop, Nat.min_eq_left (Nat.le_trans h hstop)]
  have hlen : ((t.take stop).drop start).length = stop - start := by
    rw [List.length_drop, List.length_take]
    omega
  have hchained : Chained t opening closing (start + 0) (start + ((t.take stop).drop start).length)
      (interpolationsFrom opening closing start 0 ((t.take stop).drop start)) := by
    refine chained_interpolationsFrom (Nat.zero_le _) fun i d hd => ?_
    rw [List.getElem?_drop] at hd
    rwa [List.getElem?_take_of_lt] at hd
    have := (List.getElem?_eq_some_iff.1 hd).1
    rw [List.length_take] at this
    omega
  rwa [hlen, Nat.add_zero, show start + (stop - start) = stop by omega] at hchained

namespace Context

variable {c : Context} {wide : Bool} {free : Nat → Prop}

/-- The opening delimiter of interpolations begins with a character that ends
no line. -/
def Opens (c : Context) : Prop :=
  ∃ d, c.opening.head? = some d ∧ Text.isTerminator d = false

/-- A run of literal text. -/
theorem spells_textRun (hc : c.Indexed) (h : start ≤ stop) (hstop : stop ≤ c.text.length) :
    Spells c (c.textRun start stop) (tokenPieces .htmlText start stop) := by
  obtain ⟨p, hp⟩ := place_eq hc h hstop
  unfold textRun
  rw [hp]
  exact (spells_token _ _ _).bind_pure _

/-- The literal text up to an offset, unless there is none. -/
theorem spells_textBefore (hc : c.Indexed) (h : start ≤ stop) (hstop : stop ≤ c.text.length) :
    Spells c (if (start : Int) < stop then c.textRun start stop >>= fun r => pure [Node.text r]
      else pure []) (tokenPieces .htmlText start stop) := by
  by_cases hlt : start < stop
  · rw [if_pos (by omega)]
    exact (spells_textRun hc h hstop).bind_pure _
  · rw [if_neg (by omega), tokenPieces, if_neg hlt]
    exact spells_pure _

/-- Runs are read text first. -/
theorem runs_cons (cursor stop : Int) (first last : Nat) (rest : List (Nat × Nat)) :
    c.runs cursor stop ((first, last) :: rest) =
      (if cursor < first then c.textRun cursor first >>= fun r => pure [Node.text r]
        else pure []) >>= fun before =>
        c.container first last c.opening.length c.closing.length >>= fun inner =>
          c.runs last stop rest >>= fun more => pure (before ++ .container inner :: more) := by
  rw [runs]
  by_cases h : cursor < first <;>
    simp only [h, if_true, if_false, bind_assoc, pure_bind]

/-- **A run of text**, from a cursor on. -/
theorem exists_spells_runs (hc : c.Indexed) (hf : c.Frees wide free) (ho : c.Opens)
    {cursor : Nat} {spans : List (Nat × Nat)} (hstop : stop ≤ c.text.length)
    (h : Chained c.text c.opening c.closing cursor stop spans) :
    ∃ ps, Spells c (c.runs cursor stop spans) ps ∧
      Layout wide c.text free cursor stop True ps := by
  induction spans generalizing cursor with
  | nil =>
    refine ⟨tokenPieces .htmlText cursor stop, ?_, layout_tokenPieces _ h hstop⟩
    exact spells_textBefore hc h hstop
  | cons s rest ih =>
    obtain ⟨first, last⟩ := s
    obtain ⟨h1, h2, hfirst, hrest⟩ := h
    obtain ⟨ps, hps, hlayout⟩ := ih hrest
    have hlast := hlayout.ordered
    obtain ⟨d, hd, hterm⟩ := ho
    -- the delimiter before the code is where the parenthesis finds its room
    have hpos : 0 < c.opening.length := by
      cases hopen : c.opening with
      | nil => simp [hopen] at hd
      | cons => simp
    have hroom : Room c.text (first + c.opening.length) := ⟨first, by omega, d, hfirst d hd, hterm⟩
    refine ⟨tokenPieces .htmlText cursor first ++
      (c.containerPieces first last c.opening.length c.closing.length ++ ps), ?_, ?_⟩
    · rw [runs_cons]
      exact (spells_textBefore hc h1 (by omega)).bind fun _ =>
        (spells_container hc (by omega) (by omega)).bind fun _ => hps.bind_pure _
    · exact (layout_tokenPieces _ h1 (by omega)).append_true
        ((layout_container hf (by omega) (by omega) hroom).append_true hlayout)

end Context

end Template

end SingleFile
