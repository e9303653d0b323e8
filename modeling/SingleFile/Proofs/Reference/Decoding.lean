import SingleFile.Proofs.Reference.Longest
import SingleFile.Proofs.Reference.OffsetMap

/-!
# Decoding — the offset map and the plain reading agree

References are read in two ways: `Reference.unescape` replaces them in a
text, and `Decoded.ofText` finds their spellings first and replaces each
spelling by itself. What a spelling stands for does not depend on what
follows it (`unescape_spelling`), so both ways give the same text
(`text_charsFrom`). A spelling is replaced exactly when it is numeric or
begins with a listed name (`replacement?_eq_none_iff`), and then by
something shorter (`length_lt_of_replacement`); and no cut of the text
makes or unmakes what is replaced before it (`replacement?_take`,
`replacement?_take_eq_none`).
-/

namespace SingleFile

namespace Reference

open Text

variable {t value : Text} {size n used code : Nat}

/-! ## Texts cut short -/

/-- A semicolon that is counted is kept by a cut behind it. -/
theorem semicolon_take (h : semicolon t used ≤ n) :
    semicolon (t.take n) used = semicolon t used := by
  unfold semicolon at h ⊢
  by_cases hsemi : t[used]? = some ';'
  · rw [if_pos hsemi] at h ⊢
    rw [List.getElem?_take_of_lt (by omega), if_pos hsemi]
  · rw [if_neg hsemi] at h ⊢
    refine if_neg fun hcut => hsemi ?_
    rw [List.getElem?_take, Option.ite_none_right_eq_some] at hcut
    exact hcut.2

/-- What is counted before a semicolon is no more than with it. -/
theorem le_semicolon (t : Text) (used : Nat) : used ≤ semicolon t used := by
  unfold semicolon
  split <;> omega

/-- What is taken while a class lasts is kept by a cut behind it. -/
theorem takeWhile_take {p : Char → Bool} (h : (t.takeWhile p).length ≤ n) :
    (t.take n).takeWhile p = t.takeWhile p := by
  rw [← List.take_takeWhile, List.take_of_length_le h]

/-- A class that occurs at the start of a text cut short occurs there in the text. -/
theorem takeWhile_ne_nil_of_take {p : Char → Bool} (h : (t.take n).takeWhile p ≠ []) :
    t.takeWhile p ≠ [] := by
  intro hnil
  rw [← List.take_takeWhile, hnil, List.take_nil] at h
  exact h rfl

/-- What a text cut short begins with, the text begins with. -/
theorem exists_cons_of_take {c : Char} {u : Text} (h : t.take n = c :: u) :
    ∃ m v, n = m + 1 ∧ t = c :: v ∧ u = v.take m := by
  cases n with
  | zero => cases h
  | succ m =>
    cases t with
    | nil => cases h
    | cons d v =>
      cases h
      exact ⟨m, v, rfl, rfl, rfl⟩

/-! ## Numeric references -/

/-- A hash and decimal digits. -/
theorem numeric?_of_digits {u : Text} (h : u.takeWhile Char.isDigit ≠ []) :
    numeric? ('#' :: u) = some (number 10 (u.takeWhile Char.isDigit),
      semicolon ('#' :: u) ((u.takeWhile Char.isDigit).length + 1)) := by
  simp only [numeric?, if_pos h]

/-- A hash, an x and hexadecimal digits. -/
theorem numeric?_of_hexDigits {x : Char} {u : Text} (hx : x = 'x' ∨ x = 'X')
    (h : u.takeWhile isHexDigit ≠ []) :
    numeric? ('#' :: x :: u) = some (number 16 (u.takeWhile isHexDigit),
      semicolon ('#' :: x :: u) ((u.takeWhile isHexDigit).length + 2)) := by
  have hdigit : ¬ x.isDigit = true := by
    rcases hx with rfl | rfl <;> decide
  have hnone : ¬ (x :: u).takeWhile Char.isDigit ≠ [] := by
    rw [List.takeWhile_cons_of_neg hdigit]
    exact not_not_intro rfl
  simp only [numeric?, if_neg hnone, if_pos (And.intro hx h)]

/-- **There are no other numeric references.** -/
theorem numeric?_cases (h : (numeric? t).isSome = true) :
    (∃ u, t = '#' :: u ∧ u.takeWhile Char.isDigit ≠ []) ∨
      ∃ x u, t = '#' :: x :: u ∧ (x = 'x' ∨ x = 'X') ∧ u.takeWhile isHexDigit ≠ [] := by
  unfold numeric? at h
  split at h
  · rename_i u
    dsimp only at h
    split at h
    · rename_i hdigits
      exact .inl ⟨u, rfl, hdigits⟩
    · split at h
      · rename_i x v _
        split at h
        · rename_i hhex
          exact .inr ⟨x, v, rfl, hhex⟩
        · cases h
      · cases h
  · cases h

/-- **A numeric reference** has two characters at least, and shows in a text cut
short behind it. -/
theorem numeric?_take (h : numeric? t = some (code, used)) :
    2 ≤ used ∧ ∀ n, used ≤ n → numeric? (t.take n) = some (code, used) := by
  rcases numeric?_cases (Option.isSome_of_eq_some h) with
    ⟨u, rfl, hdigits⟩ | ⟨x, u, rfl, hx, hdigits⟩
  · rw [numeric?_of_digits hdigits, Option.some.injEq, Prod.mk.injEq] at h
    obtain ⟨rfl, rfl⟩ := h
    have hpos := List.length_pos_iff.2 hdigits
    have hle := le_semicolon ('#' :: u) ((u.takeWhile Char.isDigit).length + 1)
    refine ⟨by omega, fun n hn => ?_⟩
    obtain ⟨m, rfl⟩ : ∃ m, n = m + 1 := ⟨n - 1, by omega⟩
    have hcut := semicolon_take hn
    have hsame : (u.take m).takeWhile Char.isDigit = u.takeWhile Char.isDigit :=
      takeWhile_take (by omega)
    rw [List.take_succ_cons] at hcut ⊢
    rw [numeric?_of_digits (hsame ▸ hdigits), hsame, hcut]
  · rw [numeric?_of_hexDigits hx hdigits, Option.some.injEq, Prod.mk.injEq] at h
    obtain ⟨rfl, rfl⟩ := h
    have hpos := List.length_pos_iff.2 hdigits
    have hle := le_semicolon ('#' :: x :: u) ((u.takeWhile isHexDigit).length + 2)
    refine ⟨by omega, fun n hn => ?_⟩
    obtain ⟨m, rfl⟩ : ∃ m, n = m + 2 := ⟨n - 2, by omega⟩
    have hcut := semicolon_take hn
    have hsame : (u.take m).takeWhile isHexDigit = u.takeWhile isHexDigit :=
      takeWhile_take (by omega)
    rw [List.take_succ_cons, List.take_succ_cons] at hcut ⊢
    rw [numeric?_of_hexDigits hx (hsame ▸ hdigits), hsame, hcut]

/-- **A cut makes no numeric reference.** -/
theorem numeric?_take_eq_none (h : numeric? t = none) (n : Nat) : numeric? (t.take n) = none := by
  by_contra hsome
  rcases numeric?_cases (Option.isSome_iff_ne_none.2 hsome) with
    ⟨u, hu, hdigits⟩ | ⟨x, u, hu, hx, hdigits⟩
  · obtain ⟨m, v, -, rfl, rfl⟩ := exists_cons_of_take hu
    rw [numeric?_of_digits (takeWhile_ne_nil_of_take hdigits)] at h
    cases h
  · obtain ⟨m, v, -, rfl, hv⟩ := exists_cons_of_take hu
    obtain ⟨k, w, -, rfl, rfl⟩ := exists_cons_of_take hv.symm
    rw [numeric?_of_hexDigits hx (takeWhile_ne_nil_of_take hdigits)] at h
    cases h

/-! ## What stands after a `&` -/

/-- Letters and digits may belong to a name. -/
theorem isNameChar_of_isAlphanum {c : Char} (h : c.isAlphanum = true) : isNameChar c = true := by
  unfold isNameChar
  rw [Bool.not_eq_true', ← Bool.not_eq_true]
  intro hother
  simp only [List.contains_cons, Bool.or_eq_true, beq_iff_eq, List.contains_nil,
    Bool.false_eq_true, or_false] at hother
  rcases hother with rfl | rfl | rfl | rfl | rfl | rfl | rfl | rfl <;> exact absurd h (by decide)

/-- What may belong to a name begins no reference. -/
theorem isPlain_of_isNameChar {c : Char} (h : isNameChar c = true) : isPlain c = true := by
  unfold isPlain
  rw [bne_iff_ne]
  rintro rfl
  exact absurd h (by decide)

/-- The characters taken for a name at first, with a semicolon after them. -/
def nameSize (t : Text) : Nat := semicolon t ((t.take 32).takeWhile isNameChar).length

/-- A name is read when there is one. -/
theorem read?_of_not_numeric (h : numeric? t = none) :
    read? t = if (t.take 32).takeWhile isNameChar = [] then none
      else some (ofName (t.take (nameSize t)), nameSize t) := by
  unfold read?
  rw [h]
  rfl

/-- All of it begins no reference. -/
theorem run_nameSize (t : Text) : t.Run isPlain 0 (nameSize t) :=
  Decoded.run_semicolon rfl
    ((run_takeWhile (t.take 32) isNameChar).of_take.imp fun _ => isPlain_of_isNameChar)

/-- No listed name is longer. -/
theorem Listed.le_nameSize (h : Listed t size value) : size ≤ nameSize t := by
  refine h.le_semicolon (run_takeWhile (t.take 32) isNameChar).of_take (by decide) ?_
  intro word hle hword
  exact ((hword.take hle).imp fun _ => isNameChar_of_isAlphanum).le_length_takeWhile

/-- Where one is listed, one is read. -/
theorem Listed.read?_eq (h : Listed t size value) (hn : numeric? t = none) :
    read? t = some (ofName (t.take (nameSize t)), nameSize t) := by
  rw [read?_of_not_numeric hn]
  refine if_neg fun hnil => ?_
  have hle := h.le_nameSize
  have htwo := h.bounds.1
  unfold nameSize at hle
  rw [hnil] at hle
  -- a listed name begins with no semicolon
  obtain ⟨c, u, rfl, hc⟩ := h.exists_cons
  unfold semicolon at hle
  split at hle <;> simp only [List.length_nil] at hle <;> omega

/-- **A numeric reference is replaced.** -/
theorem unescape_of_numeric (h : numeric? t = some (code, used)) :
    unescape ('&' :: t) = ofCode code ++ unescape (t.drop used) := by
  rw [unescape_ampersand, read?, h]

/-- **So is the longest listed name**, whatever else was taken at first. -/
theorem unescape_of_longest (hn : numeric? t = none) (h : Longest t size value) :
    unescape ('&' :: t) = value ++ unescape (t.drop size) := by
  have hle := h.listed.le_nameSize
  -- what was taken behind the name begins no reference and stands for itself
  have hrest : Run (t.drop size) isPlain 0 (nameSize t - size) := (run_nameSize t).drop (Nat.zero_le _)
  rw [unescape_ampersand, h.listed.read?_eq hn]
  dsimp only
  rw [ofName_of_longest (h.take hle), unescape_of_run hrest, List.drop_take, List.drop_drop,
    Nat.add_sub_cancel' hle, List.append_assoc]

/-- **A `&` before no listed name stands for itself.** -/
theorem unescape_of_unlisted (hn : numeric? t = none) (h : Unlisted t) :
    unescape ('&' :: t) = '&' :: unescape t := by
  rw [unescape_ampersand, read?_of_not_numeric hn]
  by_cases hnil : (t.take 32).takeWhile isNameChar = []
  · rw [if_pos hnil]
  · rw [if_neg hnil, unescape_of_run (run_nameSize t)]
    dsimp only
    rw [ofName_of_unlisted (h.take _)]
    rfl

end Reference

namespace Decoded

open Text Reference

variable {t value : Text} {size n used code : Nat}

/-! ## Spellings alone -/

/-- A numeric reference is spelled as it is read. -/
theorem spelling?_of_numeric (h : numeric? t = some (code, used)) : spelling? t = some used := by
  simp [spelling?, h]

/-- A letter begins the spelling of a name. -/
theorem spelling?_of_isAlpha {c : Char} {u : Text} (hn : numeric? (c :: u) = none)
    (hc : c.isAlpha = true) :
    spelling? (c :: u) = some (semicolon (c :: u) (wordSize (c :: u))) := by
  have hword : wordSize (c :: u) = (u.takeWhile Char.isAlphanum).length + 1 := by
    unfold wordSize
    rw [List.takeWhile_cons_of_pos (by simp [Char.isAlphanum, hc]), List.length_cons]
  simp [spelling?, hn, hc, hword]

/-- Listed names are spelled. -/
theorem exists_spelling_of_listed (hn : numeric? t = none) (h : Listed t size value) :
    ∃ used, spelling? t = some used ∧ size ≤ used := by
  obtain ⟨c, u, rfl, hc⟩ := h.exists_cons
  refine ⟨_, spelling?_of_isAlpha hn hc, ?_⟩
  exact h.le_semicolon (run_takeWhile (c :: u) Char.isAlphanum) (by decide)
    fun word _ hword => hword.le_length_takeWhile

/-- **What a spelling is of**: a numeric reference, a name that begins with a
longest listed one, or a name that is not listed. -/
theorem spelling_cases (h : spelling? t = some used) :
    (∃ code, numeric? t = some (code, used)) ∨
      numeric? t = none ∧ ((∃ size value, Longest t size value ∧ size ≤ used) ∨ Unlisted t) := by
  cases hn : numeric? t with
  | some r =>
    obtain ⟨code, used'⟩ := r
    rw [spelling?_of_numeric hn, Option.some.injEq] at h
    exact .inl ⟨code, by rw [h]⟩
  | none =>
    refine .inr ⟨rfl, (longest_or_unlisted t).imp_left ?_⟩
    rintro ⟨size, value, hlongest⟩
    obtain ⟨used', hspelling, hle⟩ := exists_spelling_of_listed hn hlongest.listed
    rw [h, Option.some.injEq] at hspelling
    exact ⟨size, value, hlongest, hspelling ▸ hle⟩

/-- What references are spelled with begins none, after their `&`. -/
theorem isPlain_of_isSpelling {c : Char} (h : isSpelling c = true) : isPlain c = true := by
  unfold isPlain
  rw [bne_iff_ne]
  rintro rfl
  exact absurd h (by decide)

/-- No reference begins inside a spelling. -/
theorem run_plain_of_spelling (h : spelling? t = some used) : t.Run isPlain 0 used :=
  (run_spelling h).imp fun _ => isPlain_of_isSpelling

/-- A numeric reference stands for its character. -/
theorem unescape_take_of_numeric (h : numeric? t = some (code, used)) :
    unescape ('&' :: t.take used) = ofCode code := by
  rw [unescape_of_numeric ((numeric?_take h).2 used (Nat.le_refl _)), List.drop_take_self]
  exact List.append_nil _

/-- A name stands for its longest listed part and what is left of it. -/
theorem unescape_take_of_longest (hs : spelling? t = some used) (hn : numeric? t = none)
    (h : Longest t size value) (hle : size ≤ used) :
    unescape ('&' :: t.take used) = value ++ (t.take used).drop size := by
  rw [unescape_of_longest (numeric?_take_eq_none hn used) (h.take hle), unescape_eq_self]
  have hrun := ((run_plain_of_spelling hs).take (Nat.le_refl used)).drop (Nat.zero_le size)
  exact hrun.mono (Nat.le_refl _) (by rw [List.length_drop, List.length_take]; omega)

/-- A name that is not listed stands for itself. -/
theorem unescape_take_of_unlisted (hs : spelling? t = some used) (hn : numeric? t = none)
    (h : Unlisted t) : unescape ('&' :: t.take used) = '&' :: t.take used := by
  rw [unescape_of_unlisted (numeric?_take_eq_none hn used) (h.take used), unescape_eq_self]
  have hrun := (run_plain_of_spelling hs).take (Nat.le_refl used)
  exact hrun.mono (Nat.le_refl _) (by rw [List.length_take]; omega)

/-! ## Spellings in a text -/

/-- **What a spelling stands for does not depend on what follows it.** -/
theorem unescape_spelling (h : spelling? t = some used) :
    unescape ('&' :: t) = unescape ('&' :: t.take used) ++ unescape (t.drop used) := by
  have hplain := run_plain_of_spelling h
  rcases spelling_cases h with ⟨code, hn⟩ | ⟨hn, ⟨size, value, hlongest, hle⟩ | hnone⟩
  · rw [unescape_of_numeric hn, unescape_take_of_numeric hn]
  · -- behind the listed part the spelling stands for itself
    have hrest : Run (t.drop size) isPlain 0 (used - size) := hplain.drop (Nat.zero_le _)
    rw [unescape_of_longest hn hlongest, unescape_take_of_longest h hn hlongest hle,
      unescape_of_run hrest, List.drop_take, List.drop_drop, Nat.add_sub_cancel' hle,
      List.append_assoc]
  · rw [unescape_of_unlisted hn hnone, unescape_take_of_unlisted h hn hnone,
      unescape_of_run hplain]
    rfl

/-- Where there is no spelling, no name is listed. -/
theorem unlisted_of_no_spelling (h : spelling? t = none) : numeric? t = none ∧ Unlisted t := by
  have hn : numeric? t = none := by
    cases hn : numeric? t with
    | none => rfl
    | some r => simp [spelling?, hn] at h
  refine ⟨hn, fun size value hlisted => ?_⟩
  obtain ⟨used, hsome, -⟩ := exists_spelling_of_listed hn hlisted
  rw [h] at hsome
  cases hsome

/-- A spelling is replaced by what it stands for, if that is anything else. -/
theorem replacement?_eq_some_iff : replacement? t = some (value, used) ↔
    spelling? t = some used ∧ unescape ('&' :: t.take used) = value ∧ value ≠ '&' :: t.take used := by
  unfold replacement?
  cases spelling? t with
  | none => simp
  | some used' =>
    dsimp only
    split
    · rename_i hsame
      simp only [reduceCtorEq, Option.some.injEq, false_iff, not_and]
      rintro rfl rfl
      exact not_not_intro hsame
    · rename_i hother
      simp only [Option.some.injEq, Prod.mk.injEq]
      constructor
      · rintro ⟨rfl, rfl⟩
        exact ⟨rfl, rfl, hother⟩
      · rintro ⟨rfl, rfl, -⟩
        exact ⟨rfl, rfl⟩

/-- A spelling that is not replaced stands for itself. -/
theorem unescape_of_not_replaced (h : replacement? t = none) :
    unescape ('&' :: t) = '&' :: unescape t := by
  cases hs : spelling? t with
  | none =>
    obtain ⟨hn, hnone⟩ := unlisted_of_no_spelling hs
    exact unescape_of_unlisted hn hnone
  | some used =>
    have hsame : unescape ('&' :: t.take used) = '&' :: t.take used := by
      by_contra hother
      rw [replacement?_eq_some_iff.2 ⟨hs, rfl, hother⟩] at h
      cases h
    rw [unescape_spelling hs, hsame, unescape_of_run (run_plain_of_spelling hs)]
    rfl

/-! ## What is replaced -/

/-- A numeric reference stands for one character at most. -/
theorem length_ofCode_le (code : Nat) : (ofCode code).length ≤ 1 := by
  unfold ofCode
  split
  · exact Nat.le_refl 1
  · split
    · exact Nat.le_refl 1
    · split <;> simp

/-- **A spelling stands for something shorter or for itself**, the latter when it
is not numeric and begins with no listed name. -/
theorem shorter_or_same (h : spelling? t = some used) :
    (unescape ('&' :: t.take used)).length < used ∨
      numeric? t = none ∧ Unlisted t ∧ unescape ('&' :: t.take used) = '&' :: t.take used := by
  rcases spelling_cases h with ⟨code, hn⟩ | ⟨hn, ⟨size, value, hlongest, hle⟩ | hnone⟩
  · have hone := length_ofCode_le code
    have htwo := (numeric?_take hn).1
    rw [unescape_take_of_numeric hn]
    exact .inl (by omega)
  · have hshort := hlongest.listed.bounds.2
    rw [unescape_take_of_longest h hn hlongest hle]
    refine .inl ?_
    rw [List.length_append, List.length_drop, List.length_take]
    omega
  · exact .inr ⟨hn, hnone, unescape_take_of_unlisted h hn hnone⟩

/-- What replaces a spelling is shorter. -/
theorem length_lt_of_replacement (h : replacement? t = some (value, used)) :
    value.length < used := by
  obtain ⟨hs, rfl, hother⟩ := replacement?_eq_some_iff.1 h
  exact (shorter_or_same hs).resolve_right fun hsame => hother hsame.2.2

/-- **What is replaced**: numeric references and names that begin with a listed
one, and nothing else. -/
theorem replacement?_eq_none_iff : replacement? t = none ↔ numeric? t = none ∧ Unlisted t := by
  cases hs : spelling? t with
  | none => exact iff_of_true (by simp [replacement?, hs]) (unlisted_of_no_spelling hs)
  | some used =>
    have hlen : ('&' :: t.take used).length = used + 1 := by
      rcases Nat.eq_zero_or_pos used with rfl | hpos
      · rfl
      · have := (run_spelling hs).le_length hpos
        rw [List.length_cons, List.length_take, Nat.min_eq_left this]
    rcases shorter_or_same hs with hshort | ⟨hn, hnone, hsame⟩
    · have hother : unescape ('&' :: t.take used) ≠ '&' :: t.take used := by
        intro hsame
        rw [hsame, hlen] at hshort
        omega
      rw [replacement?_eq_some_iff.2 ⟨hs, rfl, hother⟩]
      refine iff_of_false (Option.some_ne_none _) fun ⟨hn, hnone⟩ => hother ?_
      exact unescape_take_of_unlisted hs hn hnone
    · refine iff_of_true ?_ ⟨hn, hnone⟩
      by_contra hsome
      obtain ⟨⟨value, used'⟩, hreplaced⟩ := Option.ne_none_iff_exists'.1 hsome
      obtain ⟨hs', rfl, hother⟩ := replacement?_eq_some_iff.1 hreplaced
      rw [hs, Option.some.injEq] at hs'
      exact hother (hs' ▸ hsame)

/-- A spelling shows in a text cut short behind it. -/
theorem spelling?_take (h : spelling? t = some used) (hn : used ≤ n) :
    spelling? (t.take n) = some used := by
  cases hnumeric : numeric? t with
  | some r =>
    obtain ⟨code, used'⟩ := r
    rw [spelling?_of_numeric hnumeric, Option.some.injEq] at h
    exact spelling?_of_numeric ((numeric?_take (h ▸ hnumeric)).2 n hn)
  | none =>
    obtain ⟨c, u, rfl, hc⟩ : ∃ c u, t = c :: u ∧ c.isAlpha = true := by
      cases t with
      | nil => simp [spelling?, hnumeric] at h
      | cons c u =>
        refine ⟨c, u, rfl, ?_⟩
        by_contra hc
        simp [spelling?, hnumeric, hc] at h
    rw [spelling?_of_isAlpha hnumeric hc, Option.some.injEq] at h
    subst h
    have hword : wordSize (c :: u) ≤ n := (le_semicolon _ _).trans hn
    have hsame : wordSize ((c :: u).take n) = wordSize (c :: u) := by
      unfold wordSize at hword ⊢
      rw [takeWhile_take hword]
    have hpos : 0 < wordSize (c :: u) := by
      unfold wordSize
      rw [List.takeWhile_cons_of_pos (by simp [Char.isAlphanum, hc]), List.length_cons]
      exact Nat.succ_pos _
    obtain ⟨m, rfl⟩ : ∃ m, n = m + 1 := ⟨n - 1, by omega⟩
    have hnone := numeric?_take_eq_none hnumeric (m + 1)
    have hcut := semicolon_take hn
    rw [List.take_succ_cons] at hnone hsame hcut ⊢
    rw [spelling?_of_isAlpha hnone hc, hsame, hcut]

/-- **So does what is replaced.** -/
theorem replacement?_take (h : replacement? t = some (value, used)) (hn : used ≤ n) :
    replacement? (t.take n) = some (value, used) := by
  rw [replacement?_eq_some_iff] at h ⊢
  rw [List.take_take, Nat.min_eq_left hn]
  exact ⟨spelling?_take h.1 hn, h.2⟩

/-- **A cut makes nothing to replace.** -/
theorem replacement?_take_eq_none (h : replacement? t = none) (n : Nat) :
    replacement? (t.take n) = none := by
  rw [replacement?_eq_none_iff] at h ⊢
  exact ⟨numeric?_take_eq_none h.1 n, h.2.take n⟩

/-! ## The decoded text -/

/-- **Decoded characters read as the text they come from.** -/
theorem text_charsFrom (offset skip : Nat) (t : Text) :
    (charsFrom offset skip t).map (·.char) = unescape (t.drop skip) := by
  fun_induction charsFrom offset skip t with
  | case1 => simp [unescape, unescapeFrom]
  | case2 offset skip c t ih => exact ih
  | case3 offset c t value used hr ih =>
    obtain ⟨rfl, hreplaced⟩ := Option.ite_none_right_eq_some.1 hr
    obtain ⟨hs, hvalue, -⟩ := replacement?_eq_some_iff.1 hreplaced
    rw [List.map_append, ih, List.map_map, List.drop_zero, unescape_spelling hs, hvalue]
    exact congrArg (· ++ _) (List.map_id value)
  | case4 offset c t hr ih =>
    rw [List.map_cons, ih, List.drop_zero, List.drop_zero]
    by_cases hc : c = '&'
    · subst hc
      rw [if_pos rfl] at hr
      rw [unescape_of_not_replaced hr]
    · rw [unescape_of_plain (by simpa [isPlain] using hc)]

/-- **Both readings agree**: decoding gives the text with its references
replaced, and it changes nothing exactly when no replacement does. -/
theorem text_ofText (raw : Text) : (ofText raw).text = unescape raw ∧
    ((ofText raw).isIdentity = true ↔ unescape raw = raw) := by
  have htext : (ofText raw).text = unescape raw := text_charsFrom 0 0 raw
  refine ⟨htext, ?_⟩
  rw [isIdentity, htext, beq_iff_eq]
  rfl

end Decoded

end SingleFile
