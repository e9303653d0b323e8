import SingleFile.Proofs.Reference.Decoding

/-!
# Slices — decoding part of a text

Decoding goes from one edge of a decoded character to the next, so a text
cut at such an edge is decoded in two parts (`charsFrom_cut`): the cut
neither divides a reference nor makes one. Hence the source of a decoded
span decodes to that span, unless an end of it divides what one reference
stands for (`unescape_source`), and spans that are apart come from
sources that are.
-/

namespace SingleFile

namespace Decoded

open Text Reference

variable {t : Text} {offset skip i j k r : Nat} {c : DecodedChar}

/-- An offset of the decoded text stands strictly inside what one reference is replaced by
(`divides_iff`): the characters on both sides come from the same one. -/
def Divides (d : Decoded) (i : Nat) : Prop := 0 < i ∧ d.Joined (i - 1) i

instance (d : Decoded) (i j : Nat) : Decidable (d.Joined i j) :=
  decidable_of_iff (d.isIdentity = false ∧
    ∃ a ∈ d.chars[i]?, ∃ b ∈ d.chars[j]?, a.start = b.start) (by
    simp [Joined, Option.mem_def])

instance (d : Decoded) (i : Nat) : Decidable (d.Divides i) :=
  inferInstanceAs (Decidable (_ ∧ _))

/-! ## Texts that stand for themselves -/

/-- The characters of a text that begins at `offset`, each from its own place. -/
def standing (offset : Nat) : Text → List DecodedChar
  | [] => []
  | c :: t => ⟨c, offset, offset + 1⟩ :: standing (offset + 1) t

/-- Where they stand. -/
theorem span_of_standing (h : (standing offset t)[i]? = some c) :
    c.start = offset + i ∧ c.stop = offset + i + 1 := by
  induction t generalizing offset i with
  | nil => cases h
  | cons d t ih =>
    cases i with
    | zero =>
      cases h
      exact ⟨rfl, rfl⟩
    | succ i =>
      have hnext : c.start = offset + 1 + i ∧ c.stop = offset + 1 + i + 1 := ih h
      omega

/-- Skipping is decoding from further on. -/
theorem charsFrom_skip (offset skip : Nat) (t : Text) :
    charsFrom offset skip t = charsFrom (offset + skip) 0 (t.drop skip) := by
  induction skip generalizing offset t with
  | zero => rfl
  | succ skip ih =>
    cases t with
    | nil => simp [charsFrom]
    | cons d t =>
      rw [charsFrom, ih, List.drop_succ_cons]
      congr 1
      omega

/-- **Decoding never lengthens a text**, and one that it does not shorten stands
for itself. -/
theorem length_charsFrom_le (hskip : skip ≤ t.length) :
    (charsFrom offset skip t).length + skip ≤ t.length ∧
      ((charsFrom offset skip t).length + skip = t.length →
        charsFrom offset skip t = standing (offset + skip) (t.drop skip)) := by
  fun_induction charsFrom offset skip t with
  | case1 offset skip => simp_all [standing]
  | case2 offset skip d t ih =>
    simp only [List.length_cons] at hskip ⊢
    obtain ⟨hle, heq⟩ := ih (by omega)
    refine ⟨by omega, fun h => ?_⟩
    rw [heq (by omega), List.drop_succ_cons]
    congr 1
    omega
  | case3 offset d t value used hr ih =>
    -- what replaces a reference is shorter, so this text is shortened
    obtain ⟨-, -, hused⟩ := replaced_iff hr
    have hshort := length_lt_of_replacement (Option.ite_none_right_eq_some.1 hr).2
    obtain ⟨hle, -⟩ := ih hused
    simp only [List.length_append, List.length_map, List.length_cons]
    exact ⟨by omega, fun h => by omega⟩
  | case4 offset d t hr ih =>
    obtain ⟨hle, heq⟩ := ih (Nat.zero_le _)
    simp only [List.length_cons]
    refine ⟨by omega, fun h => ?_⟩
    rw [heq (by omega)]
    rfl

/-- Where decoding changes nothing, every character is from its own place. -/
theorem chars_of_isIdentity (h : (ofText t).isIdentity = true) :
    (ofText t).chars = standing 0 t :=
  (length_charsFrom_le (Nat.zero_le _)).2 (length_chars_of_isIdentity h)

/-- **A text that its reading does not shorten is not changed.** -/
theorem unescape_eq_self_iff : unescape t = t ↔ (unescape t).length = t.length := by
  refine ⟨fun h => by rw [h], fun h => ?_⟩
  have hread : (charsFrom 0 0 t).map (·.char) = unescape t := text_charsFrom 0 0 t
  have hstanding : charsFrom 0 0 t = standing 0 t :=
    (length_charsFrom_le (Nat.zero_le _)).2 (by rw [← hread, List.length_map] at h; exact h)
  have hself : ∀ offset : Nat, ∀ t : Text, (standing offset t).map (·.char) = t := by
    intro offset t
    induction t generalizing offset with
    | nil => rfl
    | cons d t ih => rw [standing, List.map_cons, ih]
  rw [← hread, hstanding, hself]

/-- The source offset of a decoded character's start, whether or not decoding
changes anything. -/
theorem rawStart_eq (h : (ofText t).chars[i]? = some c) : (ofText t).rawStart i = c.start := by
  by_cases hd : (ofText t).isIdentity = true
  · rw [chars_of_isIdentity hd] at h
    have := (span_of_standing h).1
    simp only [rawStart, hd, if_true]
    omega
  · exact rawStart_of_getElem? (by simpa using hd) h

/-- And that of its end. -/
theorem rawStop_eq (h : (ofText t).chars[i]? = some c) :
    (ofText t).rawStop (i + 1) = c.stop := by
  by_cases hd : (ofText t).isIdentity = true
  · rw [chars_of_isIdentity hd] at h
    have := (span_of_standing h).2
    simp only [rawStop, hd, if_true]
    omega
  · exact rawStop_of_getElem? (by simpa using hd) h

/-- An offset that divides nothing stands between characters of different spans. -/
theorem start_ne_of_not_divides {a : DecodedChar} (hi : ¬ (ofText t).Divides i) (hpos : 0 < i)
    (ha : (ofText t).chars[i - 1]? = some a) (hc : (ofText t).chars[i]? = some c) :
    a.start ≠ c.start := by
  by_cases hd : (ofText t).isIdentity = true
  · rw [chars_of_isIdentity hd] at ha hc
    have h1 := (span_of_standing ha).1
    have h2 := (span_of_standing hc).1
    omega
  · intro heq
    exact hi ⟨hpos, by simpa using hd, a, c, ha, hc, heq⟩

/-! ## Cuts -/

/-- **A text cut at an edge of a decoded character is decoded in two parts.** -/
theorem charsFrom_cut (hskip : skip ≤ t.length) (hc : c ∈ charsFrom offset skip t)
    (hr : c.start = offset + r ∨ c.stop = offset + r) :
    charsFrom offset skip t =
      charsFrom offset skip (t.take r) ++ charsFrom (offset + r) 0 (t.drop r) := by
  fun_induction charsFrom offset skip t generalizing r with
  | case1 => cases hc
  | case2 offset skip d t ih =>
    have hspan := span_of_mem_charsFrom (by simpa using hskip) hc
    obtain ⟨r, rfl⟩ : ∃ r', r = r' + 1 := ⟨r - 1, by omega⟩
    rw [ih (by simpa using hskip) hc (r := r) (by omega), List.take_succ_cons, charsFrom,
      List.drop_succ_cons]
    congr 2
    omega
  | case3 offset d t value used hr' ih =>
    obtain ⟨rfl, -, hused⟩ := replaced_iff hr'
    have hreplaced := (Option.ite_none_right_eq_some.1 hr').2
    cases r with
    | zero => simp [charsFrom, hreplaced]
    | succ r =>
      -- the cut is at the end of the reference or behind it
      have hbehind : used ≤ r ∧ charsFrom (offset + 1) used t =
          charsFrom (offset + 1) used (t.take r) ++ charsFrom (offset + 1 + r) 0 (t.drop r) := by
        rcases List.mem_append.1 hc with hc | hc
        · obtain ⟨e, -, rfl⟩ := List.mem_map.1 hc
          dsimp only at hr
          obtain rfl : r = used := by omega
          refine ⟨Nat.le_refl r, ?_⟩
          rw [charsFrom_skip, charsFrom_skip (offset + 1) r (t.take r), List.drop_take_self]
          rfl
        · have hspan := span_of_mem_charsFrom hused hc
          exact ⟨by omega, ih hused hc (by omega)⟩
      rw [hbehind.2, List.take_succ_cons, List.drop_succ_cons, charsFrom, if_pos rfl,
        replacement?_take hreplaced hbehind.1, ← List.append_assoc]
      congr 2
      omega
  | case4 offset d t hr' ih =>
    cases r with
    | zero => simp [charsFrom, hr']
    | succ r =>
      have hkept : (if d = '&' then replacement? (t.take r) else none) = none := by
        split
        · rename_i hd
          rw [if_pos hd] at hr'
          exact replacement?_take_eq_none hr' r
        · rfl
      have hbehind : charsFrom (offset + 1) 0 t =
          charsFrom (offset + 1) 0 (t.take r) ++ charsFrom (offset + 1 + r) 0 (t.drop r) := by
        rcases List.mem_cons.1 hc with rfl | hc
        · dsimp only at hr
          obtain rfl : r = 0 := by omega
          rfl
        · exact ih (Nat.zero_le _) hc (by omega)
      rw [hbehind, List.take_succ_cons, List.drop_succ_cons, charsFrom, hkept]
      dsimp only [List.cons_append]
      congr 3
      omega

/-- A cut before a character of a whole text. -/
theorem charsFrom_cut_start (hc : c ∈ charsFrom 0 0 t) :
    charsFrom 0 0 t = charsFrom 0 0 (t.take c.start) ++ charsFrom c.start 0 (t.drop c.start) := by
  have hcut := charsFrom_cut (Nat.zero_le _) hc (r := c.start) (.inl (Nat.zero_add _).symm)
  rwa [Nat.zero_add] at hcut

/-- The character is not among those before the cut. -/
theorem length_front_le (h : (charsFrom 0 0 t)[i]? = some c) :
    (charsFrom 0 0 (t.take c.start)).length ≤ i := by
  refine Nat.le_of_not_lt fun hlt => ?_
  have hmem : c ∈ charsFrom 0 0 (t.take c.start) := by
    rw [charsFrom_cut_start (List.mem_of_getElem? h), List.getElem?_append_left hlt] at h
    exact List.mem_of_getElem? h
  have hbefore := span_of_mem_charsFrom (Nat.zero_le _) hmem
  rw [List.length_take] at hbefore
  omega

/-- **A cut before a character** that divides nothing parts the characters there. -/
theorem drop_at_start (h : (charsFrom 0 0 t)[i]? = some c)
    (hi : ∀ a, 0 < i → (charsFrom 0 0 t)[i - 1]? = some a → a.start ≠ c.start) :
    charsFrom 0 0 (t.take c.start) = (charsFrom 0 0 t).take i ∧
      charsFrom c.start 0 (t.drop c.start) = (charsFrom 0 0 t).drop i := by
  have hcut := charsFrom_cut_start (List.mem_of_getElem? h)
  have hlen : (charsFrom 0 0 (t.take c.start)).length = i := by
    refine Nat.le_antisymm (length_front_le h) (Nat.le_of_not_lt fun hlt => ?_)
    -- the character before this one does not begin behind the cut
    obtain ⟨a, ha⟩ : ∃ a, (charsFrom 0 0 t)[i - 1]? = some a :=
      ⟨_, List.getElem?_eq_getElem (by have := (List.getElem?_eq_some_iff.1 h).1; omega)⟩
    have hmem : a ∈ charsFrom c.start 0 (t.drop c.start) := by
      rw [hcut, List.getElem?_append_right (by omega)] at ha
      exact List.mem_of_getElem? ha
    have hbehind := span_of_mem_charsFrom (Nat.zero_le _) hmem
    have hlead := leads_of_lt (t := t) (show i - 1 < i by omega) ha h
    have hne := hi a (by omega) ha
    rcases hlead with hsame | hapart
    · exact hne hsame.1
    · omega
  rw [hcut]
  exact ⟨(List.take_left' hlen).symm, (List.drop_left' hlen).symm⟩

/-- **A cut behind a character** that divides nothing parts the characters there. -/
theorem take_at_stop (h : (charsFrom 0 0 t)[i]? = some c)
    (hi : ∀ b, (charsFrom 0 0 t)[i + 1]? = some b → c.start ≠ b.start) :
    charsFrom 0 0 (t.take c.stop) = (charsFrom 0 0 t).take (i + 1) := by
  have hcut := charsFrom_cut (Nat.zero_le _) (List.mem_of_getElem? h) (r := c.stop)
    (.inr (Nat.zero_add _).symm)
  rw [Nat.zero_add] at hcut
  have hspan := span_of_mem_charsFrom (Nat.zero_le _) (List.mem_of_getElem? h)
  have hlen : (charsFrom 0 0 (t.take c.stop)).length = i + 1 := by
    refine Nat.le_antisymm (Nat.le_of_not_lt fun hlt => ?_) (Nat.le_of_not_lt fun hlt => ?_)
    · -- the next character does not end before the cut
      obtain ⟨b, hb⟩ : ∃ b, (charsFrom 0 0 t)[i + 1]? = some b :=
        ⟨_, List.getElem?_eq_getElem (by rw [hcut, List.length_append]; omega)⟩
      have hmem : b ∈ charsFrom 0 0 (t.take c.stop) := by
        rw [hcut, List.getElem?_append_left hlt] at hb
        exact List.mem_of_getElem? hb
      have hbefore := span_of_mem_charsFrom (Nat.zero_le _) hmem
      rw [List.length_take] at hbefore
      rcases leads_of_lt (t := t) (Nat.lt_succ_self i) h hb with hsame | hapart
      · exact hi b hb hsame.1
      · omega
    · -- and the character itself does not begin behind it
      have hmem : c ∈ charsFrom c.stop 0 (t.drop c.stop) := by
        rw [hcut, List.getElem?_append_right (by omega)] at h
        exact List.mem_of_getElem? h
      have hbehind := span_of_mem_charsFrom (Nat.zero_le _) hmem
      omega
  rw [hcut]
  exact (List.take_left' hlen).symm

/-! ## Divided references -/

/-- Whatever a reference stands for has the span of the reference. -/
theorem mem_charsFrom_of_replacement {value : Text} {used : Nat} {d : Char}
    (hskip : t.Run isSpelling 0 skip) (hr : t[r]? = some '&')
    (hreplaced : replacement? (t.drop (r + 1)) = some (value, used)) (hd : d ∈ value) :
    ⟨d, offset + r, offset + r + 1 + used⟩ ∈ charsFrom offset skip t := by
  -- no reference is spelled with a `&`, so none that comes before covers this one
  fun_induction charsFrom offset skip t generalizing r with
  | case1 => cases hr
  | case2 offset skip c t ih =>
    have hlt : skip + 1 ≤ r := (hskip.outside hr (by decide)).resolve_left (by omega)
    obtain ⟨r, rfl⟩ : ∃ r', r = r' + 1 := ⟨r - 1, by omega⟩
    rw [show offset + (r + 1) = offset + 1 + r by omega]
    exact ih (run_cons_iff.1 (hskip.mono (Nat.zero_le _) (Nat.le_refl _))) hr hreplaced
  | case3 offset c t value' used' h ih =>
    cases r with
    | zero =>
      obtain ⟨-, hthis⟩ := Option.ite_none_right_eq_some.1 h
      obtain ⟨rfl, rfl⟩ := Prod.mk.inj (Option.some.inj (hthis.symm.trans hreplaced))
      exact List.mem_append_left _ (List.mem_map.2 ⟨d, hd, rfl⟩)
    | succ r =>
      rw [show offset + (r + 1) = offset + 1 + r by omega]
      exact List.mem_append_right _ (ih (replaced_iff h).2.1 hr hreplaced)
  | case4 offset c t h ih =>
    cases r with
    | zero =>
      obtain rfl : c = '&' := Option.some.inj hr
      rw [if_pos rfl] at h
      cases h.symm.trans hreplaced
    | succ r =>
      rw [show offset + (r + 1) = offset + 1 + r by omega]
      exact List.mem_cons_of_mem _ (ih (run_self t _ 0) hr hreplaced)

/-- **What begins where the text does**, after the first character, comes from a reference there. -/
theorem replaced_of_start_eq (h : (charsFrom offset 0 t)[i]? = some c) (hi : 0 < i)
    (hstart : c.start = offset) : ∃ u value used, t = '&' :: u ∧
      replacement? u = some (value, used) ∧ i < value.length := by
  cases t with
  | nil => simp [charsFrom] at h
  | cons d u =>
    have hfurther : ∀ {skip : Nat}, skip ≤ u.length → c ∉ charsFrom (offset + 1) skip u := by
      intro skip hskip hmem
      have hspan := span_of_mem_charsFrom hskip hmem
      omega
    rw [charsFrom] at h
    split at h
    · rename_i value used hr
      obtain ⟨rfl, -, hused⟩ := replaced_iff hr
      refine ⟨u, value, used, rfl, (Option.ite_none_right_eq_some.1 hr).2, ?_⟩
      refine Nat.lt_of_not_le fun hle => hfurther hused ?_
      rw [List.getElem?_append_right (by rwa [List.length_map])] at h
      exact List.mem_of_getElem? h
    · obtain ⟨i, rfl⟩ : ∃ i', i = i' + 1 := ⟨i - 1, by omega⟩
      rw [List.getElem?_cons_succ] at h
      exact absurd (List.mem_of_getElem? h) (hfurther (Nat.zero_le _))

/-- **An offset divides a reference** exactly when it stands strictly inside what that is replaced
by. -/
theorem divides_iff : (ofText t).Divides i ↔ ∃ r u value used, t.drop r = '&' :: u ∧
    replacement? u = some (value, used) ∧ (unescape (t.take r)).length < i ∧
    i < (unescape (t.take r)).length + value.length := by
  have hfront : ∀ r, (unescape (t.take r)).length = (charsFrom 0 0 (t.take r)).length := by
    intro r
    have hread := text_charsFrom 0 0 (t.take r)
    rw [← List.drop_zero (l := t.take r), ← hread, List.length_map, List.drop_zero]
  constructor
  · rintro ⟨hpos, -, a, b, ha, hb, heq⟩
    have hle : (charsFrom 0 0 (t.take a.start)).length ≤ i - 1 := length_front_le ha
    have hbehind : (charsFrom 0 0 t)[i]? = some b := hb
    rw [charsFrom_cut_start (List.mem_of_getElem? ha), List.getElem?_append_right (by omega)]
      at hbehind
    obtain ⟨u, value, used, hdrop, hr, hlt⟩ :=
      replaced_of_start_eq hbehind (by omega) heq.symm
    refine ⟨a.start, u, value, used, hdrop, hr, ?_, ?_⟩ <;> rw [hfront] <;> omega
  · rintro ⟨r, u, value, used, hdrop, hr, h1, h2⟩
    rw [hfront] at h1 h2
    obtain ⟨hand, rfl⟩ : t[r]? = some '&' ∧ t.drop (r + 1) = u := by
      rw [← List.head?_drop, ← List.tail_drop, hdrop]
      exact ⟨rfl, rfl⟩
    -- the reference stands for something, so the text is cut before it
    obtain ⟨d, hd⟩ := List.exists_mem_of_length_pos (show 0 < value.length by omega)
    have hmem : ⟨d, 0 + r, 0 + r + 1 + used⟩ ∈ charsFrom 0 0 t :=
      mem_charsFrom_of_replacement (run_self t _ 0) hand hr hd
    have hcut := charsFrom_cut_start hmem
    rw [Nat.zero_add, hdrop, charsFrom, if_pos rfl, hr] at hcut
    have hinside : ∀ j, (charsFrom 0 0 (t.take r)).length ≤ j →
        j < (charsFrom 0 0 (t.take r)).length + value.length →
        ∃ a, (ofText t).chars[j]? = some a ∧ a.start = r := by
      intro j h3 h4
      obtain ⟨e, he⟩ : ∃ e, value[j - (charsFrom 0 0 (t.take r)).length]? = some e :=
        ⟨_, List.getElem?_eq_getElem (by omega)⟩
      refine ⟨⟨e, r, r + 1 + used⟩, ?_, rfl⟩
      have hat : (charsFrom 0 0 t)[j]? = some ⟨e, r, r + 1 + used⟩ := by
        rw [hcut, List.getElem?_append_right h3,
          List.getElem?_append_left (by rw [List.length_map]; omega), List.getElem?_map, he]
        rfl
      exact hat
    obtain ⟨a, ha, hastart⟩ := hinside (i - 1) (by omega) (by omega)
    obtain ⟨b, hb, hbstart⟩ := hinside i (by omega) h2
    refine ⟨by omega, ?_, a, b, ha, hb, hastart.trans hbstart.symm⟩
    by_contra hid
    rw [Bool.not_eq_false] at hid
    rw [chars_of_isIdentity hid] at ha hb
    have ha := (span_of_standing ha).1
    have hb := (span_of_standing hb).1
    omega

/-- The source of a character stands inside the source. -/
theorem rawStart_lt_length (hi : i < (ofText t).chars.length) :
    (ofText t).rawStart i < t.length :=
  (rawStart_lt_rawStop (Nat.lt_succ_self i) hi).trans_le (rawStop_le hi)

/-- The source before a character decodes to what stands before that character,
unless the offset divides what one reference stands for. -/
theorem unescape_take_rawStart (hi : i < (ofText t).chars.length)
    (hd : ¬ (ofText t).Divides i) :
    unescape (t.take ((ofText t).rawStart i)) = (ofText t).text.take i := by
  have hc := List.getElem?_eq_getElem (l := (ofText t).chars) hi
  rw [rawStart_eq hc]
  have hcut := (drop_at_start hc fun a hpos ha => start_ne_of_not_divides hd hpos ha hc).1
  have hread := text_charsFrom 0 0 (t.take (ofText t).chars[i].start)
  rw [List.drop_zero, hcut, List.map_take] at hread
  exact hread.symm

/-- **An offset is its own source** exactly when decoding changes nothing before it. -/
theorem rawStart_eq_self_iff (hi : i < (ofText t).chars.length)
    (hd : ¬ (ofText t).Divides i) :
    (ofText t).rawStart i = i ↔
      unescape (t.take ((ofText t).rawStart i)) = t.take ((ofText t).rawStart i) := by
  have hread := unescape_take_rawStart hi hd
  have hbound := (rawStart_lt_length hi).le
  have hlen : (unescape (t.take ((ofText t).rawStart i))).length = i := by
    rw [hread, List.length_take, length_text]
    omega
  rw [unescape_eq_self_iff, hlen, List.length_take_of_le hbound]
  exact eq_comm

/-! ## Sources of decoded spans -/

/-- **The source of a decoded span decodes to that span.** -/
theorem unescape_source (hij : i < j) (hj : j ≤ (ofText t).chars.length)
    (hi : ¬ (ofText t).Divides i) (hjd : ¬ (ofText t).Divides j) :
    unescape (t.slice ((ofText t).rawStart i) ((ofText t).rawStop j)) =
      ((ofText t).text.take j).drop i := by
  obtain ⟨m, rfl⟩ : ∃ m, j = m + 1 := ⟨j - 1, by omega⟩
  have ha := List.getElem?_eq_getElem (l := (ofText t).chars) (i := i) (by omega)
  have hb := List.getElem?_eq_getElem (l := (ofText t).chars) (i := m) (by omega)
  have horder := rawStart_lt_rawStop (t := t) hij hj
  have hbound := rawStop_le (t := t) hj
  rw [rawStart_eq ha, rawStop_eq hb] at horder ⊢
  rw [rawStop_eq hb] at hbound
  generalize (ofText t).chars[i] = a at *
  generalize (ofText t).chars[m] = b at *
  -- first cut behind the last character, then before the first one
  have hfront : charsFrom 0 0 (t.take b.stop) = (charsFrom 0 0 t).take (m + 1) :=
    take_at_stop hb fun d hd => start_ne_of_not_divides hjd (Nat.succ_pos m) hb hd
  have hkept : ∀ {o}, o < m + 1 →
      (charsFrom 0 0 (t.take b.stop))[o]? = (ofText t).chars[o]? := by
    intro o ho
    rw [hfront, List.getElem?_take_of_lt ho]
    rfl
  have hback := (drop_at_start ((hkept hij).trans ha) fun d hpos hd => by
    rw [hkept (by omega)] at hd
    exact start_ne_of_not_divides hi hpos hd ha).2
  have hread := text_charsFrom a.start 0 ((t.take b.stop).drop a.start)
  rw [List.drop_zero, hback, hfront, List.map_drop, List.map_take] at hread
  rw [slice_natCast hbound (Nat.le_of_lt horder), ← hread]
  rfl

/-- One reference stands for the characters between two that it stands for. -/
theorem Joined.divides (h : (ofText t).Joined (j - 1) k) (hj : 0 < j) (hjk : j ≤ k) :
    (ofText t).Divides j := by
  obtain ⟨hd, a, b, ha, hb, heq⟩ := h
  refine ⟨hj, hd, a, ?_⟩
  rcases Nat.eq_or_lt_of_le hjk with rfl | hlt
  · exact ⟨b, ha, hb, heq⟩
  · have hlen := (List.getElem?_eq_some_iff.1 hb).1
    have hc := List.getElem?_eq_getElem (l := (ofText t).chars) (i := j) (by omega)
    refine ⟨_, ha, hc, ?_⟩
    have h1 := leads_of_lt (show j - 1 < j by omega) ha hc
    have h2 := leads_of_lt hlt hc hb
    have hspan := span_of_getElem? ha
    rcases h1 with h1 | h1
    · exact h1.1
    · rcases h2 with h2 | h2 <;> have := span_of_getElem? hc <;> omega

/-- **The offset map commutes with slicing.** The source of a decoded span that
divides no reference lies inside the source, is not empty and decodes to
that span; and a span that begins further on comes from further on. A
reference is taken as it is decoded, with all the letters and digits that
follow its name. -/
theorem slice_of_span (raw : Text) (hij : i < j) (hj : j ≤ (ofText raw).text.length)
    (hi : ¬ (ofText raw).Divides i) (hjd : ¬ (ofText raw).Divides j) :
    (ofText raw).rawStart i < (ofText raw).rawStop j ∧ (ofText raw).rawStop j ≤ raw.length ∧
      unescape (raw.slice ((ofText raw).rawStart i) ((ofText raw).rawStop j)) =
        (ofText raw).text.slice i j ∧
      ∀ k, j ≤ k → k < (ofText raw).text.length →
        (ofText raw).rawStop j ≤ (ofText raw).rawStart k := by
  rw [length_text] at hj ⊢
  refine ⟨rawStart_lt_rawStop hij hj, rawStop_le hj, ?_, fun k hjk hk => ?_⟩
  · rw [unescape_source hij hj hi hjd, slice_natCast (by rwa [length_text]) (Nat.le_of_lt hij)]
  · rw [rawStop_le_rawStart_iff (by omega) hjk hk]
    exact fun hjoined => hjd (hjoined.divides (by omega) hjk)

/-- The two characters of `&nGt;` and the `<` behind a reference to nothing. -/
theorem slice_of_span_references :
    unescape (Text.slice "x&nGt;&#1;&#60;y".toList 1 15) =
      (ofText "x&nGt;&#1;&#60;y".toList).text.slice 1 4 := by
  let d := ofText "x&nGt;&#1;&#60;y".toList
  obtain ⟨hlen, hi, hj, hstart, hstop⟩ : 4 ≤ d.text.length ∧ ¬ d.Divides 1 ∧ ¬ d.Divides 4 ∧
      d.rawStart 1 = 1 ∧ d.rawStop 4 = 15 := by decide +kernel
  have hslice := (slice_of_span _ (by decide) hlen hi hj).2.2.1
  rw [hstart, hstop] at hslice
  exact hslice

end Decoded

end SingleFile
