import SingleFile.Proofs.Text.Run
import SingleFile.Reference.Decoded
import SingleFile.Text.Blank

/-!
# Offset maps — where decoded characters come from

Every decoded character comes from a span of the source that is not
empty, and the spans come in order: two characters either share the span
of one reference or lie apart (`pairwise_chars`). So the map from decoded
offsets back to the source keeps the order of two spans exactly when no
reference stands for both the last character of the one and the first of
the other (`rawStop_le_rawStart_iff`).
-/

namespace SingleFile

/-- Two decoded characters come from one reference, or from places in order. -/
def DecodedChar.Leads (a b : DecodedChar) : Prop :=
  (a.start = b.start ∧ a.stop = b.stop) ∨ a.stop ≤ b.start

namespace Decoded

open Text

/-! ## Spellings -/

/-- The characters that the spelling of a reference is made of after its `&`. -/
def isSpelling (c : Char) : Bool := c == '#' || c == ';' || c.isAlphanum

/-- One more character when it is a semicolon. -/
theorem run_semicolon {t : Text} {p : Char → Bool} {used : Nat} (hp : p ';' = true)
    (h : t.Run p 0 used) : t.Run p 0 (Reference.semicolon t used) := by
  unfold Reference.semicolon
  split
  · rename_i hs
    exact h.append (run_of_getElem? hs hp)
  · exact h

/-- Digits in either base belong to spellings. -/
theorem isSpelling_of_isHexDigit {c : Char} (h : Reference.isHexDigit c = true) :
    isSpelling c = true := by
  simp only [Reference.isHexDigit, Bool.or_eq_true, Bool.and_eq_true, decide_eq_true_eq,
    Char.le_def, UInt32.le_iff_toNat_le] at h
  have hletters : isSpelling c = (c == '#' || c == ';' ||
      (decide ('A'.val ≤ c.val ∧ c.val ≤ 'Z'.val) ||
        decide ('a'.val ≤ c.val) && decide (c.val ≤ 'z'.val) || c.isDigit)) := rfl
  simp only [hletters, Bool.or_eq_true, Bool.and_eq_true, decide_eq_true_eq,
    UInt32.le_iff_toNat_le]
  rcases h with (h | ⟨h1, h2⟩) | ⟨h1, h2⟩
  · exact .inr (.inr h)
  · exact .inr (.inl (.inr ⟨h1, h2.trans (by decide)⟩))
  · exact .inr (.inl (.inl ⟨h1, h2.trans (by decide)⟩))

/-- A numeric reference is spelled with such characters. -/
theorem run_numeric {t : Text} {code used : Nat} (h : Reference.numeric? t = some (code, used)) :
    t.Run isSpelling 0 used := by
  obtain ⟨u, rfl⟩ : ∃ u, t = '#' :: u := by
    unfold Reference.numeric? at h
    split at h
    · exact ⟨_, rfl⟩
    · cases h
  simp only [Reference.numeric?] at h
  split at h
  · simp only [Option.some.injEq, Prod.mk.injEq] at h
    rw [← h.2]
    refine run_semicolon rfl ((run_of_getElem? (d := '#') rfl rfl).append (run_cons_iff.2 ?_))
    exact (run_takeWhile u Char.isDigit).imp fun c hc =>
      isSpelling_of_isHexDigit (by simp [Reference.isHexDigit, hc])
  · cases u with
    | nil => cases h
    | cons x v =>
      dsimp only at h
      split at h
      · rename_i hx
        simp only [Option.some.injEq, Prod.mk.injEq] at h
        rw [← h.2]
        refine run_semicolon rfl ((run_of_getElem? (d := '#') rfl rfl).append (run_cons_iff.2
          ((run_of_getElem? (d := x) rfl ?_).append (run_cons_iff.2 ?_))))
        · rcases hx.1 with rfl | rfl <;> rfl
        · exact (run_takeWhile v Reference.isHexDigit).imp fun c => isSpelling_of_isHexDigit
      · cases h

/-- **The spelling of a reference** lies inside the text and is made of such
characters. -/
theorem run_spelling {t : Text} {used : Nat} (h : spelling? t = some used) :
    t.Run isSpelling 0 used := by
  unfold spelling? at h
  split at h
  · rename_i hn
    cases h
    exact run_numeric hn
  · cases t with
    | nil => cases h
    | cons c u =>
      dsimp only at h
      split at h
      · rename_i hc
        cases h
        refine run_semicolon rfl ((run_of_getElem? (d := c) rfl ?_).append (run_cons_iff.2 ?_))
        · simp [isSpelling, Char.isAlphanum, hc]
        · exact (run_takeWhile u Char.isAlphanum).imp fun d hd => by simp [isSpelling, hd]
      · cases h

/-- So is one that is replaced. -/
theorem run_replacement {t value : Text} {used : Nat} (h : replacement? t = some (value, used)) :
    t.Run isSpelling 0 used := by
  unfold replacement? at h
  split at h
  · cases h
  · rename_i used' hs
    dsimp only at h
    split at h
    · cases h
    · simp only [Option.some.injEq, Prod.mk.injEq] at h
      exact h.2 ▸ run_spelling hs

/-- A reference that is replaced begins with `&` and ends inside the text. -/
theorem replaced_iff {c : Char} {t value : Text} {used : Nat}
    (h : (if c = '&' then replacement? t else none) = some (value, used)) :
    c = '&' ∧ t.Run isSpelling 0 used ∧ used ≤ t.length := by
  split at h
  · rename_i hc
    have hrun := run_replacement h
    refine ⟨hc, hrun, ?_⟩
    rcases Nat.eq_zero_or_pos used with rfl | hpos
    · exact Nat.zero_le _
    · exact hrun.le_length hpos
  · cases h

/-! ## Spans -/

/-- **Every decoded character comes from a span inside the text** that is not
empty and lies after what is skipped. -/
theorem span_of_mem_charsFrom {offset skip : Nat} {t : Text} {c : DecodedChar}
    (hskip : skip ≤ t.length) (hc : c ∈ charsFrom offset skip t) :
    offset + skip ≤ c.start ∧ c.start < c.stop ∧ c.stop ≤ offset + t.length := by
  fun_induction charsFrom offset skip t with
  | case1 => simp at hc
  | case2 offset skip d t ih =>
    have := ih (by simpa using hskip) hc
    simp only [List.length_cons]
    omega
  | case3 offset d t value used hr ih =>
    obtain ⟨-, -, hused⟩ := replaced_iff hr
    simp only [List.length_cons]
    rcases List.mem_append.1 hc with hc | hc
    · obtain ⟨e, -, rfl⟩ := List.mem_map.1 hc
      dsimp only
      omega
    · have := ih hused hc
      omega
  | case4 offset d t hr ih =>
    simp only [List.length_cons]
    rcases List.mem_cons.1 hc with rfl | hc
    · dsimp only
      omega
    · have := ih (Nat.zero_le _) hc
      omega

/-- **The spans come in order**, and only the characters of one reference
share theirs. -/
theorem pairwise_charsFrom {offset skip : Nat} {t : Text} (hskip : skip ≤ t.length) :
    (charsFrom offset skip t).Pairwise DecodedChar.Leads := by
  fun_induction charsFrom offset skip t with
  | case1 => exact .nil
  | case2 offset skip d t ih => exact ih (by simpa using hskip)
  | case3 offset d t value used hr ih =>
    obtain ⟨-, -, hused⟩ := replaced_iff hr
    refine List.pairwise_append.2 ⟨?_, ih hused, ?_⟩
    · exact List.pairwise_map.2 (List.pairwise_iff_getElem.2 fun _ _ _ _ _ => .inl ⟨rfl, rfl⟩)
    · intro a ha b hb
      obtain ⟨e, -, rfl⟩ := List.mem_map.1 ha
      have := (span_of_mem_charsFrom hused hb).1
      right
      dsimp only
      omega
  | case4 offset d t hr ih =>
    refine List.pairwise_cons.2 ⟨fun b hb => .inr ?_, ih (Nat.zero_le _)⟩
    exact (span_of_mem_charsFrom (Nat.zero_le _) hb).1

/-- A character that no reference is spelled with stands for itself. -/
theorem mem_charsFrom_of_not_isSpelling {offset skip k : Nat} {t : Text} {d : Char}
    (hskip : t.Run isSpelling 0 skip) (hd : t[k]? = some d) (hs : isSpelling d = false)
    (ha : d ≠ '&') : ⟨d, offset + k, offset + k + 1⟩ ∈ charsFrom offset skip t := by
  fun_induction charsFrom offset skip t generalizing k with
  | case1 => simp at hd
  | case2 offset skip c t ih =>
    cases k with
    | zero =>
      -- the character would be part of the spelling that is skipped
      have := hskip.outside hd hs
      omega
    | succ k =>
      have := ih (k := k) (fun o _ h2 => hskip (o + 1) (Nat.zero_le _) (by omega)) hd
      rwa [show offset + (k + 1) = offset + 1 + k by omega]
  | case3 offset c t value used hr ih =>
    obtain ⟨rfl, hrun, -⟩ := replaced_iff hr
    cases k with
    | zero =>
      -- a reference begins with its ampersand
      cases hd
      exact absurd rfl ha
    | succ k =>
      rw [show offset + (k + 1) = offset + 1 + k by omega]
      exact List.mem_append_right _ (ih hrun hd)
  | case4 offset c t hr ih =>
    cases k with
    | zero => cases hd; exact List.mem_cons_self
    | succ k =>
      rw [show offset + (k + 1) = offset + 1 + k by omega]
      exact List.mem_cons_of_mem _ (ih (run_self t _ 0) hd)

/-! ## Offsets -/

variable {t : Text} {i j k : Nat}

/-- One reference stands for two decoded characters. -/
def Joined (d : Decoded) (i j : Nat) : Prop :=
  d.isIdentity = false ∧ ∃ a b, d.chars[i]? = some a ∧ d.chars[j]? = some b ∧ a.start = b.start

/-- A reference that stands for nothing was left out before a decoded offset. -/
def Omits (d : Decoded) (i : Nat) : Prop := d.rawStop i < d.rawStart i

/-- The decoded text has one character for each decoded one. -/
theorem length_text (d : Decoded) : d.text.length = d.chars.length := List.length_map _

/-- Where decoding changes nothing there is a character for each one of the source. -/
theorem length_chars_of_isIdentity {d : Decoded} (h : d.isIdentity = true) :
    d.chars.length = d.raw.length := by
  rw [← d.length_text, eq_of_beq h]

/-- The spans of the characters of a decoded text. -/
theorem span_of_getElem? {c : DecodedChar} (h : (ofText t).chars[i]? = some c) :
    c.start < c.stop ∧ c.stop ≤ t.length := by
  have := span_of_mem_charsFrom (Nat.zero_le _) (List.mem_of_getElem? h)
  omega

/-- The spans of two characters of a decoded text. -/
theorem leads_of_lt {a b : DecodedChar} (hij : i < j) (ha : (ofText t).chars[i]? = some a)
    (hb : (ofText t).chars[j]? = some b) : a.Leads b := by
  obtain ⟨hi, rfl⟩ := List.getElem?_eq_some_iff.1 ha
  obtain ⟨hj, rfl⟩ := List.getElem?_eq_some_iff.1 hb
  exact List.pairwise_iff_getElem.1 (pairwise_charsFrom (Nat.zero_le _)) i j hi hj hij

/-- The source offset of a decoded character's start, where decoding changes the text. -/
theorem rawStart_of_getElem? {d : Decoded} {c : DecodedChar} (hd : d.isIdentity = false)
    (h : d.chars[i]? = some c) : d.rawStart i = c.start := by
  simp [rawStart, hd, h]

/-- And that of its end. -/
theorem rawStop_of_getElem? {d : Decoded} {c : DecodedChar} (hd : d.isIdentity = false)
    (h : d.chars[i]? = some c) : d.rawStop (i + 1) = c.stop := by
  simp [rawStop, hd, h]

/-- **A decoded span that is not empty comes from one that is not empty.** -/
theorem rawStart_lt_rawStop (hij : i < j) (hj : j ≤ (ofText t).chars.length) :
    (ofText t).rawStart i < (ofText t).rawStop j := by
  obtain ⟨m, rfl⟩ : ∃ m, j = m + 1 := ⟨j - 1, by omega⟩
  by_cases hd : (ofText t).isIdentity = true
  · -- where decoding changes nothing, offsets stand for themselves
    simp only [rawStart, rawStop, hd, if_true]
    exact hij
  · rw [Bool.not_eq_true] at hd
    have ha := List.getElem?_eq_getElem (l := (ofText t).chars) (i := i) (by omega)
    have hb := List.getElem?_eq_getElem (l := (ofText t).chars) (i := m) (by omega)
    rw [rawStart_of_getElem? hd ha, rawStop_of_getElem? hd hb]
    have h1 := span_of_getElem? ha
    have h2 := span_of_getElem? hb
    -- either the span is one character, or its first leads its last
    rcases Nat.lt_or_ge i m with him | him
    · rcases leads_of_lt him ha hb with h | h
      · omega
      · omega
    · obtain rfl : i = m := by omega
      exact h1.1

/-- It lies inside the source. -/
theorem rawStop_le (hj : j ≤ (ofText t).chars.length) : (ofText t).rawStop j ≤ t.length := by
  cases j with
  | zero => exact Nat.zero_le _
  | succ m =>
    by_cases hd : (ofText t).isIdentity = true
    · have : (ofText t).chars.length = t.length := length_chars_of_isIdentity hd
      simp only [rawStop, hd, if_true]
      omega
    · rw [Bool.not_eq_true] at hd
      have hb := List.getElem?_eq_getElem (l := (ofText t).chars) (i := m) (by omega)
      rw [rawStop_of_getElem? hd hb]
      exact (span_of_getElem? hb).2

/-- Characters further on do not start earlier in the source. -/
theorem rawStart_le_rawStart (hij : i ≤ j) (hj : j < (ofText t).chars.length) :
    (ofText t).rawStart i ≤ (ofText t).rawStart j := by
  by_cases hd : (ofText t).isIdentity = true
  · simpa only [rawStart, hd, if_true] using hij
  · rw [Bool.not_eq_true] at hd
    have ha := List.getElem?_eq_getElem (l := (ofText t).chars) (i := i) (by omega)
    have hb := List.getElem?_eq_getElem (l := (ofText t).chars) (i := j) hj
    rw [rawStart_of_getElem? hd ha, rawStart_of_getElem? hd hb]
    have h1 := span_of_getElem? ha
    rcases Nat.eq_or_lt_of_le hij with rfl | hlt
    · exact Nat.le_refl _
    · rcases leads_of_lt hlt ha hb with h | h <;> omega

/-- Nor do they stop earlier. -/
theorem rawStop_le_rawStop (hi : 0 < i) (hij : i ≤ j) (hj : j ≤ (ofText t).chars.length) :
    (ofText t).rawStop i ≤ (ofText t).rawStop j := by
  obtain ⟨m, rfl⟩ : ∃ m, i = m + 1 := ⟨i - 1, by omega⟩
  obtain ⟨k, rfl⟩ : ∃ k, j = k + 1 := ⟨j - 1, by omega⟩
  by_cases hd : (ofText t).isIdentity = true
  · simpa only [rawStop, hd, if_true] using hij
  · rw [Bool.not_eq_true] at hd
    have ha := List.getElem?_eq_getElem (l := (ofText t).chars) (i := m) (by omega)
    have hb := List.getElem?_eq_getElem (l := (ofText t).chars) (i := k) (by omega)
    rw [rawStop_of_getElem? hd ha, rawStop_of_getElem? hd hb]
    have h2 := span_of_getElem? hb
    rcases Nat.eq_or_lt_of_le (Nat.le_of_succ_le_succ hij) with rfl | hlt
    · exact Nat.le_refl _
    · rcases leads_of_lt hlt ha hb with h | h <;> omega

/-- **The order of decoded spans is kept except within one reference.** The
source of one span ends before that of a later one starts exactly when no
reference stands for both the last character of the one and the first of
the other. -/
theorem rawStop_le_rawStart_iff (hi : 0 < i) (hij : i ≤ j) (hj : j < (ofText t).chars.length) :
    (ofText t).rawStop i ≤ (ofText t).rawStart j ↔ ¬ (ofText t).Joined (i - 1) j := by
  obtain ⟨m, rfl⟩ : ∃ m, i = m + 1 := ⟨i - 1, by omega⟩
  rw [Nat.add_sub_cancel]
  by_cases hd : (ofText t).isIdentity = true
  · simp only [rawStart, rawStop, Joined, hd, if_true, Bool.true_eq_false, false_and, not_false_eq_true,
      iff_true]
    exact hij
  · rw [Bool.not_eq_true] at hd
    have ha := List.getElem?_eq_getElem (l := (ofText t).chars) (i := m) (by omega)
    have hb := List.getElem?_eq_getElem (l := (ofText t).chars) (i := j) hj
    rw [rawStart_of_getElem? hd hb, rawStop_of_getElem? hd ha]
    have h1 := span_of_getElem? ha
    have h2 := span_of_getElem? hb
    have hiff : (ofText t).Joined m j ↔
        (ofText t).chars[m].start = (ofText t).chars[j].start := by
      simp [Joined, hd, ha, hb]
    rw [hiff]
    rcases leads_of_lt (by omega) ha hb with h | h
    · omega
    · omega

/-! ## Places without meaning -/

/-- An offset of the source stands for nothing but blanks, if for anything. -/
def Silent (d : Decoded) (k : Nat) : Prop :=
  ∀ i c, d.text[i]? = some c → d.rawStart i ≤ k → k < d.rawStop (i + 1) → isBlank c = true

/-- **A slash is not silent**, since no reference is spelled with one. -/
theorem not_silent_of_slash (h : t[k]? = some '/') : ¬ (ofText t).Silent k := by
  intro hsilent
  by_cases hd : (ofText t).isIdentity = true
  · have htext : (ofText t).text = t := eq_of_beq hd
    have hblank := hsilent k '/' (htext.symm ▸ h) (by simp [rawStart, hd]) (by simp [rawStop, hd])
    exact absurd hblank (by decide)
  · rw [Bool.not_eq_true] at hd
    have hmem : ⟨'/', 0 + k, 0 + k + 1⟩ ∈ charsFrom 0 0 t :=
      mem_charsFrom_of_not_isSpelling (run_self t isSpelling 0) h (by decide) (by decide)
    rw [Nat.zero_add] at hmem
    obtain ⟨i, hi⟩ := List.getElem?_of_mem hmem
    have hi' : (ofText t).chars[i]? = some ⟨'/', k, k + 1⟩ := hi
    have hblank := hsilent i '/' (by simp [text, hi'])
      (by rw [rawStart_of_getElem? hd hi']) (by rw [rawStop_of_getElem? hd hi']; exact Nat.lt_succ_self k)
    exact absurd hblank (by decide)

end Decoded

end SingleFile
