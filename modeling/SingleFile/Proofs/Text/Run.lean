import Mathlib.Data.List.TakeWhile
import SingleFile.Text

/-!
# Runs — stretches of a text of one class

`Text.Run t p start stop` says that the text reaches up to `stop` and that
its characters from `start` on are all of class `p`. What the scanners of
names and blanks find, and what well-formed markup is made of, is said
with runs.
-/

namespace SingleFile

namespace Text

variable {t : Text} {p q : Char → Bool} {a b c : Nat}

/-- Every character from `start` up to `stop` is there and of class `p`. -/
def Run (t : Text) (p : Char → Bool) (start stop : Nat) : Prop :=
  ∀ o, start ≤ o → o < stop → ∃ c, t[o]? = some c ∧ p c = true

instance (t : Text) (p : Char → Bool) (start stop : Nat) : Decidable (t.Run p start stop) :=
  decidable_of_iff (∀ o < stop, start ≤ o → (t[o]?.any p) = true) (by
    simp only [Run, Option.any_eq_true]
    exact ⟨fun h o h1 h2 => h o h2 h1, fun h o h1 h2 => h o h2 h1⟩)

/-- What stands in a run is of its class. -/
theorem Run.of_getElem? (h : t.Run p a b) {o : Nat} {d : Char} (h1 : a ≤ o) (h2 : o < b)
    (hd : t[o]? = some d) : p d = true := by
  obtain ⟨d', hd', hp⟩ := h o h1 h2
  rw [hd, Option.some.injEq] at hd'
  exact hd' ▸ hp

/-- What is of another class stands outside. -/
theorem Run.outside (h : t.Run p a b) {o : Nat} {d : Char} (hd : t[o]? = some d)
    (hp : p d = false) : o < a ∨ b ≤ o := by
  refine Classical.or_iff_not_imp_left.2 fun h1 => Nat.le_of_not_lt fun h2 => ?_
  rw [h.of_getElem? (Nat.le_of_not_lt h1) h2 hd] at hp
  cases hp

/-- A run lies inside the text. -/
theorem Run.le_length (h : t.Run p a b) (hab : a < b) : b ≤ t.length := by
  obtain ⟨c, hc, -⟩ := h (b - 1) (by omega) (by omega)
  have := (List.getElem?_eq_some_iff.1 hc).1
  omega

/-- Nothing is a run of any class. -/
theorem run_self (t : Text) (p : Char → Bool) (a : Nat) : t.Run p a a :=
  fun o h1 h2 => by omega

/-- Part of a run is a run. -/
theorem Run.mono (h : t.Run p a b) {a' b' : Nat} (ha : a ≤ a') (hb : b' ≤ b) : t.Run p a' b' :=
  fun o h1 h2 => h o (by omega) (by omega)

/-- A run of a class is one of every class around it. -/
theorem Run.imp (h : t.Run p a b) (hpq : ∀ c, p c = true → q c = true) : t.Run q a b :=
  fun o h1 h2 => (h o h1 h2).imp fun c hc => ⟨hc.1, hpq c hc.2⟩

/-- Runs join. -/
theorem Run.append (h : t.Run p a b) (h' : t.Run p b c) : t.Run p a c := fun o h1 h2 => by
  rcases Nat.lt_or_ge o b with ho | ho
  · exact h o h1 ho
  · exact h' o ho h2

/-- One character is a run of length one. -/
theorem run_of_getElem? {d : Char} (h : t[a]? = some d) (hd : p d = true) : t.Run p a (a + 1) :=
  fun o h1 h2 => ⟨d, by rwa [show o = a by omega], hd⟩

/-- A run one place further on in a text with one more character in front. -/
theorem run_cons_iff {d : Char} : Run (d :: t) p (a + 1) (b + 1) ↔ t.Run p a b := by
  constructor
  · intro h o h1 h2
    exact h (o + 1) (by omega) (by omega)
  · intro h o h1 h2
    obtain ⟨k, rfl⟩ : ∃ k, o = k + 1 := ⟨o - 1, by omega⟩
    exact h k (by omega) (by omega)

/-- What is taken while a class lasts is a run of it. -/
theorem run_takeWhile (t : Text) (p : Char → Bool) : t.Run p 0 (t.takeWhile p).length := by
  intro o _ h
  have hmem := List.getElem_mem h
  refine ⟨_, ?_, List.mem_takeWhile_imp hmem⟩
  rw [(List.takeWhile_prefix p).getElem h]
  exact List.getElem?_eq_getElem _

/-- It ends where the class does. -/
theorem getElem?_length_takeWhile {t : Text} {p : Char → Bool}
    (h : (t.takeWhile p).length < t.length) :
    ∃ c, t[(t.takeWhile p).length]? = some c ∧ p c = false := by
  induction t with
  | nil => simp at h
  | cons d t ih =>
    cases hd : p d with
    | false => exact ⟨d, by simp [hd], hd⟩
    | true =>
      simp only [List.takeWhile_cons, hd, if_true, List.length_cons] at h ⊢
      exact ih (by omega)

/-- No run is longer than what is taken. -/
theorem Run.le_length_takeWhile (h : t.Run p 0 b) : b ≤ (t.takeWhile p).length := by
  refine Nat.le_of_not_lt fun hlt => ?_
  have hlen := h.le_length (by omega)
  obtain ⟨c, hc, hp⟩ := getElem?_length_takeWhile (t := t) (p := p) (by omega)
  rw [h.of_getElem? (Nat.zero_le _) hlt hc] at hp
  cases hp

/-- A run of a text cut short is one of the text. -/
theorem Run.of_take {n : Nat} (h : Run (t.take n) p a b) : t.Run p a b := by
  intro o h1 h2
  obtain ⟨c, hc, hp⟩ := h o h1 h2
  rw [List.getElem?_take, Option.ite_none_right_eq_some] at hc
  exact ⟨c, hc.2, hp⟩

/-- A run of a text is one of the text cut short behind it. -/
theorem Run.take {n : Nat} (h : t.Run p a b) (hn : b ≤ n) : Run (t.take n) p a b := by
  intro o h1 h2
  obtain ⟨c, hc, hp⟩ := h o h1 h2
  exact ⟨c, by rw [List.getElem?_take_of_lt (by omega), hc], hp⟩

/-- What is left of a run behind a cut. -/
theorem Run.drop {n : Nat} (h : t.Run p a b) (hn : a ≤ n) : Run (t.drop n) p 0 (b - n) := by
  intro o _ h2
  rw [List.getElem?_drop]
  exact h (n + o) (by omega) (by omega)

/-- Of a wider class no less is taken. -/
theorem length_takeWhile_le {α : Type} {p q : α → Bool} (h : ∀ a, p a = true → q a = true)
    (l : List α) : (l.takeWhile p).length ≤ (l.takeWhile q).length := by
  induction l with
  | nil => exact Nat.le_refl _
  | cons a l ih =>
    rw [List.takeWhile_cons]
    split
    · rename_i hp
      rw [List.takeWhile_cons_of_pos (h a hp)]
      exact Nat.succ_le_succ ih
    · exact Nat.zero_le _

/-! ## Slices between offsets inside the text -/

/-- A slice between two offsets in order. -/
theorem slice_natCast (hb : b ≤ t.length) (hab : a ≤ b) : t.slice a b = (t.take b).drop a := by
  unfold slice
  rw [bound_of_le hb, bound_of_le (hab.trans hb)]

/-- Its length. -/
theorem length_slice (hb : b ≤ t.length) (hab : a ≤ b) : (t.slice a b).length = b - a := by
  rw [slice_natCast hb hab, List.length_drop, List.length_take]
  omega

/-- What comes before a slice and the slice. -/
theorem take_append_slice (hb : b ≤ t.length) (hab : a ≤ b) :
    t.take a ++ t.slice a b = t.take b := by
  rw [slice_natCast hb hab, ← List.take_append_drop a (t.take b), List.take_take,
    Nat.min_eq_left hab, List.drop_left' (by rw [List.length_take]; omega)]

/-- A text is what comes before a slice, the slice, and what comes after it. -/
theorem take_append_slice_append_drop (hb : b ≤ t.length) (hab : a ≤ b) :
    t.take a ++ (t.slice a b ++ t.drop b) = t := by
  rw [← List.append_assoc, take_append_slice hb hab, List.take_append_drop]

/-- Its characters. -/
theorem getElem?_slice (hb : b ≤ t.length) (hab : a ≤ b) {i : Nat} (hi : a + i < b) :
    (t.slice a b)[i]? = t[a + i]? := by
  rw [slice_natCast hb hab, List.getElem?_drop, List.getElem?_take_of_lt hi]

/-- Texts that have the same characters between two offsets have the same slice. -/
theorem slice_congr {u : Text} (ht : b ≤ t.length) (hu : b ≤ u.length) (hab : a ≤ b)
    (h : ∀ o, a ≤ o → o < b → t[o]? = u[o]?) : t.slice a b = u.slice a b := by
  apply List.ext_getElem?
  intro i
  by_cases hi : a + i < b
  · rw [getElem?_slice ht hab hi, getElem?_slice hu hab hi]
    exact h (a + i) (Nat.le_add_right a i) hi
  · rw [List.getElem?_eq_none (by rw [length_slice ht hab]; omega),
      List.getElem?_eq_none (by rw [length_slice hu hab]; omega)]

/-- Slices that follow one another join. -/
theorem slice_append_slice (hc : c ≤ t.length) (hab : a ≤ b) (hbc : b ≤ c) :
    t.slice a b ++ t.slice b c = t.slice a c := by
  have hfront : t.take b = (t.take c).take b := by rw [List.take_take, Nat.min_eq_left hbc]
  rw [slice_natCast (hbc.trans hc) hab, slice_natCast hc hbc, slice_natCast hc (hab.trans hbc),
    hfront, ← List.drop_append_of_le_length (by simp only [List.length_take]; omega),
    List.take_append_drop]

/-- A slice of a slice is one of the text. -/
theorem slice_slice {i j : Nat} (hb : b ≤ t.length) (hij : i ≤ j)
    (hj : a + j ≤ b) : (t.slice a b).slice i j = t.slice (a + i : Nat) (a + j : Nat) := by
  have hlen : (t.slice a b).length = b - a := length_slice hb (by omega)
  rw [slice_natCast (by omega) hij, slice_natCast hb (by omega),
    slice_natCast (by omega) (by omega), List.take_drop, List.drop_drop, List.take_take,
    Nat.min_eq_left hj]

/-- A slice of one character. -/
theorem slice_succ {d : Char} (h : t[a]? = some d) : t.slice a (a + 1 : Nat) = [d] := by
  obtain ⟨hlt, hd⟩ := List.getElem?_eq_some_iff.1 h
  rw [slice_natCast (by omega) (by omega), List.take_add_one, h,
    List.drop_left' (by rw [List.length_take]; omega)]
  rfl

/-- The character at an offset that is not negative. -/
@[simp] theorem at?_natCast (t : Text) (o : Nat) : t.at? o = t[o]? := by
  unfold at?
  rw [if_neg (by omega)]
  rfl

end Text

end SingleFile
