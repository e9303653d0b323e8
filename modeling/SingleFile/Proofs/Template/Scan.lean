import SingleFile.Proofs.Expression.Anchoring
import SingleFile.Proofs.Text.Run
import SingleFile.Template

/-!
# Scanning — where names, blanks and signs stop

The scanners of the template reader look at one character at a time and
fail outside the source. Over a run they stop just where it ends, and the
lemmas of the first sections give the offset that a scanner returns from
the runs around it. Over any other source all that is known of a scan that
ends is that it ends between the offsets it was given.
-/

namespace SingleFile

namespace Template

variable {t : Text} {a b n : Nat}

/-! ## Upward and downward -/

/-- A scan upward passes what it is not looking for and stops at what it is,
or after its last step. -/
theorem skipUp_eq {test : Int → Except Failure Bool} (hle : a ≤ b) (hn : b ≤ a + n)
    (hskip : ∀ o, a ≤ o → o < b → test (o : Nat) = .ok false)
    (hstop : b < a + n → test b = .ok true) : skipUp test a n = .ok (b : Int) := by
  induction n generalizing a with
  | zero =>
    rw [skipUp, show b = a by omega]
  | succ n ih =>
    rcases Nat.lt_or_ge a b with hab | hab
    · have htest := hskip a (Nat.le_refl a) hab
      have hnext := ih (a := a + 1) (by omega) (by omega) (fun o h1 h2 => hskip o (by omega) h2)
        (fun h => hstop (by omega))
      rw [skipUp, htest]
      exact hnext
    · obtain rfl : a = b := by omega
      rw [skipUp, hstop (by omega)]
      rfl

/-- A scan downward likewise. -/
theorem skipDown_eq {test : Int → Except Failure Bool} (hle : b ≤ a) (hn : a ≤ b + n)
    (hskip : ∀ o, b ≤ o → o < a → test (o : Nat) = .ok false)
    (hstop : a < b + n → 0 < b ∧ test ((b - 1 : Nat) : Int) = .ok true) :
    skipDown test a n = .ok (b : Int) := by
  induction n generalizing a with
  | zero =>
    rw [skipDown, show b = a by omega]
  | succ n ih =>
    rcases Nat.lt_or_ge b a with hab | hab
    · have htest := hskip (a - 1) (by omega) (by omega)
      have hnext := ih (a := a - 1) (by omega) (by omega) (fun o h1 h2 => hskip o h1 (by omega))
        (fun h => hstop (by omega))
      rw [skipDown, show (a : Int) - 1 = (a - 1 : Nat) by omega, htest]
      exact hnext
    · obtain rfl : a = b := by omega
      obtain ⟨hpos, htest⟩ := hstop (by omega)
      rw [skipDown, show (a : Int) - 1 = (a - 1 : Nat) by omega, htest]
      rfl

/-! ## Names -/

/-- A character inside the source can be looked at. -/
theorem charAt_natCast {c : Char} (h : t[a]? = some c) : charAt t a = .ok c := by
  rw [charAt, Text.at?_natCast, h]

/-- It is part of a name when it is a name character. -/
theorem isNameCharAt_natCast {c : Char} (h : t[a]? = some c) :
    isNameCharAt t a = .ok (isNameChar c) := by
  unfold isNameCharAt isNameChar
  rw [Int.toNat_natCast, h, charAt_natCast h]
  cases hd : isDelimiter c <;> simp [hd, Except.map]

/-- No name character is there. -/
def NoName (c : Char) : Bool := !isNameChar c

/-- **Where a name begins**: at its first character. -/
theorem nameStart_eq {limit : Nat} (hname : t.Run isNameChar a b) (hab : a < b) :
    nameStart t a limit = .ok (a : Int) := by
  obtain ⟨c, hc, hn⟩ := hname a (Nat.le_refl a) hab
  refine skipUp_eq (Nat.le_refl a) (by omega) (fun o h1 h2 => by omega) fun _ => ?_
  rw [isNameCharAt_natCast hc, hn]

/-- **Where a name that goes on stops**: at the first character that is not of
a name, or at the limit. -/
theorem nameRest_eq {limit : Nat} (hname : t.Run isNameChar a b) (hab : a ≤ b)
    (hlimit : b ≤ limit) (hstop : b < limit → ∃ c, t[b]? = some c ∧ isNameChar c = false) :
    nameRest t a limit = .ok (b : Int) := by
  refine skipUp_eq hab (by omega) (fun o h1 h2 => ?_) fun h => ?_
  · obtain ⟨c, hc, hn⟩ := hname o h1 h2
    rw [isNameCharAt_natCast hc, hn]
    rfl
  · obtain ⟨c, hc, hn⟩ := hstop (by omega)
    rw [isNameCharAt_natCast hc, hn]
    rfl

/-- **Where the last name before an offset stops**: after its last character. -/
theorem nameStop_eq {floor stop : Nat} (hname : t.Run isNameChar floor b) (hfloor : floor < b)
    (hb : b ≤ stop) (hgap : t.Run NoName b stop) : nameStop t stop floor = .ok (b : Int) := by
  refine skipDown_eq hb (by omega) (fun o h1 h2 => ?_) fun _ => ⟨by omega, ?_⟩
  · obtain ⟨c, hc, hn⟩ := hgap o h1 h2
    rw [isNameCharAt_natCast hc, show isNameChar c = false by simpa [NoName] using hn]
  · obtain ⟨c, hc, hn⟩ := hname (b - 1) (by omega) (by omega)
    rw [isNameCharAt_natCast hc, hn]

/-! ## Signs -/

/-- **Where a sign is found**: at its first occurrence. -/
theorem find?_eq_some {c : Char} {sign stop : Nat} (hstart : a ≤ sign) (hsign : sign < stop)
    (hstop : stop ≤ t.length) (hbefore : ∀ o, a ≤ o → o < sign → t[o]? ≠ some c)
    (hat : t[sign]? = some c) : t.find? c a stop = some sign := by
  have hget : ∀ i, a + i < stop → (t.slice a stop)[i]? = t[a + i]? := fun i hi =>
    Text.getElem?_slice hstop (by omega) hi
  have hlen := Text.length_slice hstop (show a ≤ stop by omega)
  have hfind : (t.slice a stop).findIdx? (· == c) = some (sign - a) := by
    rw [List.findIdx?_eq_some_iff_getElem]
    refine ⟨by omega, ?_, fun j hj => ?_⟩
    · have := hget (sign - a) (by omega)
      rw [show a + (sign - a) = sign by omega, hat, List.getElem?_eq_some_iff] at this
      rw [this.2]
      exact beq_self_eq_true c
    · intro heq
      refine hbefore (a + j) (by omega) (by omega) ?_
      rw [← hget j (by omega), List.getElem?_eq_getElem (by omega), eq_of_beq heq]
  rw [Text.find?, hfind, Text.bound_of_le (by omega)]
  simp only [Option.map_some, Option.some.injEq]
  omega

/-- And where it does not occur it is not found. -/
theorem find?_eq_none {c : Char} {stop : Nat} (hle : a ≤ stop) (hstop : stop ≤ t.length)
    (h : ∀ o, a ≤ o → o < stop → t[o]? ≠ some c) : t.find? c a stop = none := by
  have hlen := Text.length_slice hstop hle
  rw [Text.find?, Option.map_eq_none_iff, List.findIdx?_eq_none_iff]
  intro d hd
  obtain ⟨i, hi, rfl⟩ := List.getElem_of_mem hd
  refine beq_false_of_ne fun heq => h (a + i) (by omega) (by omega) ?_
  rw [← Text.getElem?_slice hstop hle (by omega), List.getElem?_eq_getElem hi, heq]

/-! ## Where scans end -/

section Scans

variable {t : Text} {test : Int → Except Failure Bool} {offset r start stop : Int} {n : Nat}

/-- **A scan upward** ends between the offset it starts at and its last step. -/
theorem bounds_of_skipUp (h : skipUp test offset n = .ok r) : offset ≤ r ∧ r ≤ offset + n := by
  induction n generalizing offset with
  | zero =>
    cases h
    omega
  | succ n ih =>
    rw [skipUp] at h
    obtain ⟨found, -, h⟩ := except_bind_eq_ok_iff.1 h
    split at h
    · cases h
      omega
    · have := ih h
      omega

/-- **A scan downward** likewise. -/
theorem bounds_of_skipDown (h : skipDown test offset n = .ok r) : offset - n ≤ r ∧ r ≤ offset := by
  induction n generalizing offset with
  | zero =>
    cases h
    omega
  | succ n ih =>
    rw [skipDown] at h
    obtain ⟨found, -, h⟩ := except_bind_eq_ok_iff.1 h
    split at h
    · cases h
      omega
    · have := ih h
      omega

/-- **A character is found** between the offsets where it is looked for. -/
theorem bounds_of_find? {d : Char} {first last k : Nat} (h : t.find? d first last = some k) :
    first ≤ k ∧ k < last := by
  obtain ⟨i, hi, rfl⟩ := Option.map_eq_some_iff.1 h
  have hlength := (List.findIdx?_eq_some_iff_getElem.1 hi).1
  have hbound : ∀ o : Nat, t.bound o = min o t.length := by
    intro o
    unfold Text.bound
    rw [if_neg (by omega), Int.toNat_natCast]
  rw [Text.slice, List.length_drop, List.length_take] at hlength
  simp only [hbound] at hlength ⊢
  omega

/-- The sign of an attribute, or its end when it has none, lies in the attribute. -/
theorem bounds_of_sign {d : Char} (h1 : 0 ≤ start) (h2 : start ≤ stop) :
    start ≤ ((t.find? d start stop).map Int.ofNat).getD stop ∧
      ((t.find? d start stop).map Int.ofNat).getD stop ≤ stop := by
  obtain ⟨first, rfl⟩ := Int.eq_ofNat_of_zero_le h1
  obtain ⟨last, rfl⟩ := Int.eq_ofNat_of_zero_le (Int.le_trans h1 h2)
  cases hfind : t.find? d first last with
  | none => exact ⟨h2, Int.le_refl _⟩
  | some k =>
    obtain ⟨h3, h4⟩ := bounds_of_find? hfind
    exact ⟨Int.ofNat_le.2 h3, Int.ofNat_le.2 (Nat.le_of_lt h4)⟩

end Scans

/-! ## Code between delimiters -/

/-- The code between two offsets: what is left without blanks at either end. -/
def codeSpan (t : Text) (start stop : Nat) : Nat × Nat :=
  let code := t.slice start stop
  let first := start + (code.takeWhile Text.isBlank).length
  (first, first + code.trim.length)

/-- The last characters of a text are the first of it reversed. -/
theorem getElem?_reverse_of_append (front : Text) {rest : Text} {k : Nat} (hk : k < rest.length) :
    rest.reverse[k]? = (front ++ rest)[(front ++ rest).length - 1 - k]? := by
  rw [List.getElem?_reverse hk, List.getElem?_append_right (by rw [List.length_append]; omega),
    List.length_append]
  congr 1
  omega

/-- **What trimming leaves out** at either end is of the class, and what it keeps
begins and ends with a character that is not. -/
theorem trimOf_spec {p : Char → Bool} {code : Text} {first last : Nat}
    (hfirst : first = (code.takeWhile p).length)
    (hlast : last = first + (code.trimOf p).length) :
    last ≤ code.length ∧ code.Run p 0 first ∧ code.Run p last code.length ∧
      (first < code.length → ∃ c, code[first]? = some c ∧ p c = false) ∧
      (first < last → ∃ c, code[last - 1]? = some c ∧ p c = false) := by
  generalize hrest : code.dropWhile p = rest
  have hsplit : code = code.takeWhile p ++ rest := by simp [← hrest]
  have htotal : code.length = first + rest.length := by
    rw [hfirst, ← List.length_append, ← hsplit]
  have hsize : rest.length =
      (rest.reverse.takeWhile p).length + (rest.reverse.dropWhile p).length := by
    rw [← List.length_append, List.takeWhile_append_dropWhile, List.length_reverse]
  have hkept : last = first + (rest.reverse.dropWhile p).length := by
    rw [hlast, Text.trimOf, hrest, List.length_reverse]
  -- the rest is scanned from its end, so its characters are counted from there
  have hback : ∀ k, k < rest.length → rest.reverse[k]? = code[code.length - 1 - k]? := by
    intro k hk
    have := getElem?_reverse_of_append (code.takeWhile p) hk
    rwa [← hsplit] at this
  refine ⟨by omega, hfirst ▸ Text.run_takeWhile code p, fun o h1 h2 => ?_, fun hlt => ?_,
    fun hlt => ?_⟩
  · have htrail := Text.run_takeWhile rest.reverse p
    obtain ⟨c, hc, hp⟩ := htrail (code.length - 1 - o) (Nat.zero_le _) (by omega)
    rw [hback _ (by omega), show code.length - 1 - (code.length - 1 - o) = o by omega] at hc
    exact ⟨c, hc, hp⟩
  · rw [hfirst] at hlt ⊢
    exact Text.getElem?_length_takeWhile hlt
  · have hshort : (rest.reverse.takeWhile p).length < rest.reverse.length := by
      rw [List.length_reverse]
      omega
    obtain ⟨c, hc, hp⟩ := Text.getElem?_length_takeWhile hshort
    rw [hback _ (by omega)] at hc
    refine ⟨c, hc ▸ ?_, hp⟩
    congr 1
    omega

/-- **What the code leaves out is blank**, and what it keeps begins and ends
with a character that is not. -/
theorem codeSpan_spec (h : a ≤ b) (hb : b ≤ t.length) :
    a ≤ (codeSpan t a b).1 ∧ (codeSpan t a b).1 ≤ (codeSpan t a b).2 ∧ (codeSpan t a b).2 ≤ b ∧
      t.Run Text.isBlank a (codeSpan t a b).1 ∧ t.Run Text.isBlank (codeSpan t a b).2 b ∧
      ((codeSpan t a b).1 < b → ∃ c, t[(codeSpan t a b).1]? = some c ∧ Text.isBlank c = false) ∧
      ((codeSpan t a b).1 < (codeSpan t a b).2 →
        ∃ c, t[(codeSpan t a b).2 - 1]? = some c ∧ Text.isBlank c = false) := by
  obtain ⟨first, hfirst⟩ : ∃ n, n = ((t.slice a b).takeWhile Text.isBlank).length := ⟨_, rfl⟩
  obtain ⟨last, hlast⟩ : ∃ n, n = first + ((t.slice a b).trimOf Text.isBlank).length := ⟨_, rfl⟩
  have hspan : codeSpan t a b = (a + first, a + last) := by
    rw [hlast, hfirst, ← Nat.add_assoc]
    rfl
  obtain ⟨hle, hlead, htrail, hopens, hcloses⟩ := trimOf_spec hfirst hlast
  -- an offset in the slice is one in the text, further on by where the slice begins
  have hlen := Text.length_slice hb h
  have hget : ∀ i, a + i < b → (t.slice a b)[i]? = t[a + i]? := fun i hi =>
    Text.getElem?_slice hb h hi
  have hrun : ∀ {i j}, j ≤ (t.slice a b).length → (t.slice a b).Run Text.isBlank i j →
      t.Run Text.isBlank (a + i) (a + j) := by
    intro i j hj hrun o h1 h2
    obtain ⟨c, hc, hp⟩ := hrun (o - a) (by omega) (by omega)
    rw [hget _ (by omega), show a + (o - a) = o by omega] at hc
    exact ⟨c, hc, hp⟩
  rw [hspan]
  dsimp only
  refine ⟨by omega, by omega, by omega, hrun (by omega) hlead, ?_, fun hlt => ?_, fun hlt => ?_⟩
  · have := hrun (Nat.le_refl _) htrail
    rwa [hlen, show a + (b - a) = b by omega] at this
  · rw [← hget _ hlt]
    exact hopens (by omega)
  · rw [show a + last - 1 = a + (last - 1) by omega, ← hget _ (by omega)]
    exact hcloses (by omega)

end Template

end SingleFile
