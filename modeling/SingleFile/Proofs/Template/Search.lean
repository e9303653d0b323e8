import SingleFile.Proofs.Template.Runs

/-!
# Interpolations — the search for delimiters

At every offset of a text there is an interpolation or there is none, and
those found from left to right are the interpolations of the text. The
same ones are found by looking for the delimiters alone (`Scan`): the
first opening delimiter, the first closing one with room for a character
between them, and on from there. No other opening delimiter has to be
tried when nothing closes the first, for what closes a later one closes
the first as well (`Scan.of_succ`).
-/

namespace SingleFile

namespace Template

variable {t opening closing part : Text} {start stop cursor o p q : Nat}

/-! ## Occurrences -/

/-- A part stands at an offset of a text, and ends at `stop` at the latest. -/
def Occurs (t part : Text) (stop o : Nat) : Prop :=
  o + part.length ≤ stop ∧ part <+: t.drop o

/-- **The first occurrence** of a part at an offset or behind it. -/
structure First (t part : Text) (stop cursor o : Nat) : Prop where
  le : cursor ≤ o
  occurs : Occurs t part stop o
  least : ∀ p, cursor ≤ p → p < o → ¬ Occurs t part stop p

/-- There is at most one. -/
theorem First.unique (h : First t part stop cursor o) (h' : First t part stop cursor p) :
    o = p := by
  rcases Nat.lt_trichotomy o p with hlt | heq | hlt
  · exact absurd h.occurs (h'.least o h.le hlt)
  · exact heq
  · exact absurd h'.occurs (h.least p h'.le hlt)

/-- What occurs up to `stop` is what the text up to there goes on with. -/
theorem occurs_add_iff {u : Text} (hu : u = (t.take stop).drop cursor) (ho : cursor + o ≤ stop) :
    Occurs t part stop (cursor + o) ↔ part <+: u.drop o := by
  rw [Occurs, hu, List.drop_drop, List.drop_take, List.prefix_take_iff, and_comm]
  refine and_congr_right fun _ => ?_
  omega

/-! ## Searches -/

/-- **A search from left to right**, from a cursor on. It looks for the first opening delimiter,
then for the first closing delimiter with room for a character before it, and goes on behind that,
until no opening delimiter is left that is closed. -/
inductive Scan (t opening closing : Text) (stop : Nat) : Nat → List (Nat × Nat) → Prop
  | none {cursor : Nat}
      (h : ∀ p, First t opening stop cursor p → ∀ q, p + opening.length + 1 ≤ q →
        ¬ Occurs t closing stop q) :
      Scan t opening closing stop cursor []
  | next {cursor p q : Nat} {rest : List (Nat × Nat)}
      (opens : First t opening stop cursor p)
      (closes : First t closing stop (p + opening.length + 1) q)
      (more : Scan t opening closing stop (q + closing.length) rest) :
      Scan t opening closing stop cursor ((p, q + closing.length) :: rest)

/-- **A search has one outcome.** -/
theorem Scan.unique {spans spans' : List (Nat × Nat)}
    (h : Scan t opening closing stop cursor spans)
    (h' : Scan t opening closing stop cursor spans') : spans = spans' := by
  induction h generalizing spans' with
  | none hnone =>
    cases h' with
    | none => rfl
    | next opens closes => exact absurd closes.occurs (hnone _ opens _ closes.le)
  | next opens closes more ih =>
    cases h' with
    | none hnone => exact absurd closes.occurs (hnone _ opens _ closes.le)
    | next opens' closes' more' =>
      obtain rfl := opens.unique opens'
      obtain rfl := closes.unique closes'
      rw [ih more']

/-- **A search may leave out an offset** at which no delimiter opens an interpolation. -/
theorem Scan.of_succ {spans : List (Nat × Nat)}
    (hnone : Occurs t opening stop cursor → ∀ q, cursor + opening.length + 1 ≤ q →
      ¬ Occurs t closing stop q)
    (h : Scan t opening closing stop (cursor + 1) spans) :
    Scan t opening closing stop cursor spans := by
  cases h with
  | none hdone =>
    refine .none fun p hp q hq => ?_
    by_cases hcursor : p = cursor
    · subst hcursor
      exact hnone hp.occurs q hq
    · have hle := hp.le
      exact hdone p ⟨by omega, hp.occurs, fun o h1 h2 => hp.least o (by omega) h2⟩ q hq
  | next opens closes more =>
    have h1 := opens.le
    have h2 := closes.le
    -- a delimiter that stood at the cursor would be closed there too
    have hcursor : ¬ Occurs t opening stop cursor := fun hocc =>
      hnone hocc _ (by omega) closes.occurs
    refine .next ⟨by omega, opens.occurs, fun o h3 h4 => ?_⟩ closes more
    by_cases heq : o = cursor
    · exact heq ▸ hcursor
    · exact opens.least o (by omega) h4

/-! ## The interpolations of a text -/

/-- The distance to a part is that to its first occurrence. -/
theorem distanceTo?_eq_some {n : Nat} (h : distanceTo? part t = some n) :
    part <+: t.drop n ∧ ∀ m < n, ¬ part <+: t.drop m := by
  induction t generalizing n with
  | nil =>
    rw [distanceTo?, Option.ite_none_right_eq_some, Option.some.injEq] at h
    obtain ⟨rfl, rfl⟩ := h
    exact ⟨List.nil_prefix, fun m hm => absurd hm (Nat.not_lt_zero m)⟩
  | cons c t ih =>
    rw [distanceTo?] at h
    by_cases hbegins : part <+: c :: t
    · rw [if_pos (Text.beginsWith_iff_isPrefix.2 hbegins), Option.some.injEq] at h
      subst h
      exact ⟨hbegins, fun m hm => absurd hm (Nat.not_lt_zero m)⟩
    · rw [if_neg fun hb => hbegins (Text.beginsWith_iff_isPrefix.1 hb)] at h
      obtain ⟨n, hn, rfl⟩ := Option.map_eq_some_iff.1 h
      obtain ⟨hat, hbefore⟩ := ih hn
      refine ⟨hat, fun m hm => ?_⟩
      cases m with
      | zero => exact hbegins
      | succ m => exact hbefore m (by omega)

/-- Without a distance it does not occur. -/
theorem distanceTo?_eq_none (h : distanceTo? part t = none) (m : Nat) (hm : m ≤ t.length) :
    ¬ part <+: t.drop m := by
  induction t generalizing m with
  | nil =>
    rw [distanceTo?] at h
    split at h
    · cases h
    · rename_i hpart
      rw [List.drop_nil, List.prefix_nil]
      exact hpart
  | cons c t ih =>
    rw [distanceTo?] at h
    by_cases hbegins : part <+: c :: t
    · rw [if_pos (Text.beginsWith_iff_isPrefix.2 hbegins)] at h
      cases h
    · rw [if_neg fun hb => hbegins (Text.beginsWith_iff_isPrefix.1 hb),
        Option.map_eq_none_iff] at h
      cases m with
      | zero => exact hbegins
      | succ m => exact ih h m (Nat.le_of_succ_le_succ hm)

/-- **An interpolation at the start of a text** is the opening delimiter, a character, and all up
to the first closing delimiter after it. -/
theorem interpolationSize?_cases (opening closing t : Text) :
    (∃ n, interpolationSize? opening closing t =
          some (opening.length + 1 + n + closing.length) ∧
        opening <+: t ∧ distanceTo? closing (t.drop (opening.length + 1)) = some n) ∨
      interpolationSize? opening closing t = none ∧
        (opening <+: t → opening.length < t.length →
          distanceTo? closing (t.drop (opening.length + 1)) = none) := by
  have hbehind : ∀ (b : Char) (body : Text),
      (opening ++ b :: body).drop (opening.length + 1) = body := by
    intro b body
    rw [← List.drop_drop, List.drop_left]
    rfl
  unfold interpolationSize?
  cases hlead : t.dropLead? opening with
  | none =>
    refine .inr ⟨rfl, fun hprefix _ => ?_⟩
    obtain ⟨rest, hrest⟩ := hprefix
    rw [Text.dropLead?_eq_some_iff.2 hrest.symm] at hlead
    cases hlead
  | some rest =>
    obtain rfl := Text.dropLead?_eq_some_iff.1 hlead
    cases rest with
    | nil =>
      refine .inr ⟨rfl, fun _ hlt => ?_⟩
      rw [List.append_nil] at hlt
      exact absurd hlt (Nat.lt_irrefl _)
    | cons b body =>
      rw [hbehind]
      cases hdistance : distanceTo? closing body with
      | none => exact .inr ⟨by simp only [hdistance]; rfl, fun _ _ => rfl⟩
      | some n =>
        exact .inl ⟨n, by simp only [hdistance]; rfl, List.prefix_append _ _, rfl⟩

/-- **Interpolations are found by a search.** -/
theorem scan_interpolationsFrom {offset skip : Nat} {u : Text}
    (hu : u = (t.take stop).drop offset) (hoffset : offset + u.length = stop)
    (hskip : skip ≤ u.length) :
    Scan t opening closing stop (offset + skip)
      (interpolationsFrom opening closing offset skip u) := by
  -- dropping the first character moves what is left of the text one place up
  have hshift : ∀ {offset : Nat} {d : Char} {u : Text}, d :: u = (t.take stop).drop offset →
      u = (t.take stop).drop (offset + 1) := by
    intro offset d u hu
    rw [← List.drop_drop, ← hu]
    rfl
  fun_induction interpolationsFrom opening closing offset skip u with
  | case1 offset skip =>
    refine .none fun p hp q hq hocc => ?_
    have h1 := hp.le
    have h2 := hocc.1
    rw [List.length_nil] at hoffset
    omega
  | case2 offset skip d u ih =>
    rw [List.length_cons] at hoffset hskip
    rw [show offset + (skip + 1) = offset + 1 + skip by omega]
    exact ih (hshift hu) (by omega) (by omega)
  | case3 offset d u size hsize ih =>
    obtain ⟨-, hsmall, -⟩ := interpolationSize?_spec hsize
    rw [List.length_cons] at hoffset hsmall
    rcases interpolationSize?_cases opening closing (d :: u) with
      ⟨n, hfound, hopens, hdistance⟩ | ⟨hnone, -⟩
    · obtain rfl := Option.some.inj (hsize.symm.trans hfound)
      obtain ⟨hcloses, hleast⟩ := distanceTo?_eq_some hdistance
      have hfirst : First t opening stop offset offset :=
        ⟨Nat.le_refl _, (occurs_add_iff (o := 0) hu (by omega)).2 hopens,
          fun o h1 h2 => absurd h1 (Nat.not_le_of_lt h2)⟩
      have hlast : First t closing stop (offset + opening.length + 1)
          (offset + (opening.length + 1 + n)) := by
        refine ⟨by omega, (occurs_add_iff hu (by omega)).2 ?_, fun o h1 h2 hocc => ?_⟩
        · rw [← List.drop_drop]
          exact hcloses
        · obtain ⟨m, rfl⟩ : ∃ m, o = offset + (opening.length + 1 + m) :=
            ⟨o - offset - (opening.length + 1), by omega⟩
          rw [occurs_add_iff hu (by omega), ← List.drop_drop] at hocc
          exact hleast m (by omega) hocc
      have hmore := ih (hshift hu) (by omega) (by omega)
      rw [show offset + 1 + (opening.length + 1 + n + closing.length - 1) =
        offset + (opening.length + 1 + n) + closing.length by omega] at hmore
      rw [← Nat.add_assoc offset (opening.length + 1 + n)]
      exact .next hfirst hlast hmore
    · rw [hnone] at hsize
      cases hsize
  | case4 offset d u hsize ih =>
    rcases interpolationSize?_cases opening closing (d :: u) with ⟨n, hfound, -⟩ | ⟨-, hnone⟩
    · rw [hfound] at hsize
      cases hsize
    · rw [List.length_cons] at hoffset hnone
      refine Scan.of_succ (fun hopens q hq hcloses => ?_) (ih (hshift hu) (by omega) (Nat.zero_le _))
      -- what is left has room for the opening delimiter and a character, as it is closed further on
      have hroom := hcloses.1
      have hopens := (occurs_add_iff (o := 0) hu (by omega)).1 hopens
      have habsent := distanceTo?_eq_none (hnone hopens (by omega))
      obtain ⟨m, rfl⟩ : ∃ m, q = offset + (opening.length + 1 + m) :=
        ⟨q - offset - (opening.length + 1), by omega⟩
      rw [occurs_add_iff hu (by omega), ← List.drop_drop] at hcloses
      refine habsent m ?_ hcloses
      rw [List.length_drop, List.length_cons]
      omega

/-- **The interpolations between two offsets** are found by the search from the first one on, and
by no other. -/
theorem scan_iff_interpolations (hle : start ≤ stop) (hstop : stop ≤ t.length)
    {spans : List (Nat × Nat)} :
    Scan t opening closing stop start spans ↔
      spans = interpolations opening closing t start stop := by
  have hfound : Scan t opening closing stop start
      (interpolations opening closing t start stop) := by
    unfold interpolations
    simp only [Int.toNat_natCast, Nat.min_eq_left hstop, Nat.min_eq_left (hle.trans hstop)]
    have hlength : start + ((t.take stop).drop start).length = stop := by
      rw [List.length_drop, List.length_take]
      omega
    exact scan_interpolationsFrom rfl hlength (Nat.zero_le _)
  exact ⟨fun h => h.unique hfound, fun h => h ▸ hfound⟩

end Template

end SingleFile
