import SingleFile.Proofs.Text.Run
import SingleFile.Reference

/-!
# Named references — the longest listed name

After a `&` that begins no numeric reference, up to 32 characters are
taken for a name, looked up whole, and then cut shorter and shorter. All
listed names are words of at most 32 letters and digits, with or without
a semicolon at the end, so it does not matter how much was taken at
first (`Listed.le_semicolon`): what is replaced is the longest listed
name that the text begins with, and where there is none the `&` stands
for itself (`ofName_cases`). Which name that is shows in the text up to
the end of the name (`Longest.take`, `Unlisted.take`).
-/

namespace SingleFile

namespace Reference

open Text

variable {t value value' : Text} {size size' n used code : Nat}

/-! ## Listed names -/

/-- The first `size` characters of a text are a listed name. -/
structure Listed (t : Text) (size : Nat) (value : Text) : Prop where
  le_length : size ≤ t.length
  named : named? (t.take size) = some value

/-- They are the longest one that the text begins with. -/
structure Longest (t : Text) (size : Nat) (value : Text) : Prop where
  listed : Listed t size value
  longest : ∀ size' value', Listed t size' value' → size' ≤ size

/-- The text begins with no listed name. -/
def Unlisted (t : Text) : Prop := ∀ size value, ¬ Listed t size value

/-- The letters and digits that a text begins with. -/
def wordSize (t : Text) : Nat := (t.takeWhile Char.isAlphanum).length

/-- A name of at least two characters, a letter first: at most 32 letters and
digits, and possibly a semicolon after them. Its value is shorter. -/
def isEntry (name value : Text) : Bool :=
  name.head?.any Char.isAlpha && semicolon name (wordSize name) == name.length &&
    decide (wordSize name ≤ 32 ∧ 2 ≤ name.length ∧ value.length < name.length)

/-- All names are of this form. -/
theorem all_isEntry : (names.all fun e => isEntry e.1 e.2) = true := by decide +kernel

/-- What is listed is of this form. -/
theorem Listed.isEntry (h : Listed t size value) : isEntry (t.take size) value = true := by
  have hlookup : names.lookup (t.take size) = some value := h.named
  obtain ⟨before, after, hsplit, -⟩ := List.lookup_eq_some_iff.1 hlookup
  exact List.all_eq_true.1 all_isEntry (t.take size, value) (by rw [hsplit]; simp)

/-- One text is listed with one value. -/
theorem Listed.value_eq (h : Listed t size value) (h' : Listed t size value') :
    value = value' :=
  Option.some.inj (h.named.symm.trans h'.named)

/-- A listed name has two characters at least, and more than its value. -/
theorem Listed.bounds (h : Listed t size value) : 2 ≤ size ∧ value.length < size := by
  have hentry := h.isEntry
  simp only [Reference.isEntry, Bool.and_eq_true, decide_eq_true_eq, List.length_take,
    Nat.min_eq_left h.le_length] at hentry
  exact hentry.2.2

/-- It begins with a letter. -/
theorem Listed.exists_cons (h : Listed t size value) :
    ∃ c u, t = c :: u ∧ c.isAlpha = true := by
  have hentry := h.isEntry
  have hsize := h.bounds.1
  cases t with
  | nil => simp [Reference.isEntry] at hentry
  | cons c u =>
    obtain ⟨k, rfl⟩ : ∃ k, size = k + 1 := ⟨size - 1, by omega⟩
    simp only [Reference.isEntry, List.take_succ_cons, List.head?_cons, Option.any_some,
      Bool.and_eq_true] at hentry
    exact ⟨c, u, rfl, hentry.1.1⟩

/-- It is a word of at most 32 letters and digits, or that and a semicolon. -/
theorem Listed.exists_word (h : Listed t size value) :
    ∃ word ≤ 32, t.Run Char.isAlphanum 0 word ∧
      (size = word ∨ size = word + 1 ∧ t[word]? = some ';') := by
  have hentry := h.isEntry
  simp only [Reference.isEntry, Bool.and_eq_true, decide_eq_true_eq, beq_iff_eq,
    List.length_take, Nat.min_eq_left h.le_length] at hentry
  refine ⟨wordSize (t.take size), hentry.2.1, (run_takeWhile _ _).of_take, ?_⟩
  have hsize := hentry.1.2
  unfold semicolon at hsize
  split at hsize
  · rename_i hsemi
    rw [List.getElem?_take] at hsemi
    split at hsemi
    · exact .inr ⟨hsize.symm, hsemi⟩
    · cases hsemi
  · exact .inl hsize.symm

/-- **A listed name lies in what may be taken for one**: in any run of a class
without the semicolon that is no shorter than the words it begins with, and the
semicolon after it. -/
theorem Listed.le_semicolon {p : Char → Bool} (h : Listed t size value) (hrun : t.Run p 0 n)
    (hp : p ';' = false) (hmax : ∀ word ≤ 32, t.Run Char.isAlphanum 0 word → word ≤ n) :
    size ≤ semicolon t n := by
  obtain ⟨word, hle, hword, hsize⟩ := h.exists_word
  have hn : word ≤ n := hmax word hle hword
  unfold semicolon
  rcases hsize with rfl | ⟨rfl, hsemi⟩
  · split <;> omega
  · -- the run stops at the semicolon, so it is just the word
    have hstop := hrun.outside hsemi hp
    obtain rfl : n = word := by omega
    rw [if_pos hsemi]

/-! ## Texts cut short -/

/-- What is listed in a text cut short is listed in the text. -/
theorem Listed.of_take (h : Listed (t.take n) size value) : Listed t size value := by
  have hlen := h.le_length
  rw [List.length_take] at hlen
  refine ⟨by omega, ?_⟩
  have hnamed := h.named
  rwa [List.take_take, Nat.min_eq_left (by omega)] at hnamed

/-- And the other way round, where the name is not cut. -/
theorem Listed.take (h : Listed t size value) (hn : size ≤ n) :
    Listed (t.take n) size value := by
  have hlen := h.le_length
  refine ⟨by rw [List.length_take]; omega, ?_⟩
  rw [List.take_take, Nat.min_eq_left hn]
  exact h.named

/-- The longest listed name stays the longest where it is not cut. -/
theorem Longest.take (h : Longest t size value) (hn : size ≤ n) :
    Longest (t.take n) size value :=
  ⟨h.listed.take hn, fun size' value' h' => h.longest size' value' h'.of_take⟩

/-- Nothing is listed in a text cut short when nothing is in the text. -/
theorem Unlisted.take (h : Unlisted t) (n : Nat) : Unlisted (t.take n) :=
  fun size value h' => h size value h'.of_take

/-! ## Looking names up -/

/-- There is one longest listed name at most. -/
theorem Longest.unique (h : Longest t size value) (h' : Longest t size' value') :
    size = size' ∧ value = value' := by
  have h1 := h.longest size' value' h'.listed
  have h2 := h'.longest size value h.listed
  obtain rfl : size = size' := by omega
  exact ⟨rfl, h.listed.value_eq h'.listed⟩

/-- **Cutting shorter and shorter** finds the longest listed name of at most `n`
characters. -/
theorem longestName?_cases (hn : n ≤ t.length) :
    (∃ size value, Listed t size value ∧ size ≤ n ∧
      (∀ size' value', Listed t size' value' → size' ≤ n → size' ≤ size) ∧
      longestName? t n = some (value ++ t.drop size)) ∨
    (∀ size value, Listed t size value → n < size) ∧ longestName? t n = none := by
  -- names have two characters at least, which is where the cutting ends
  fun_induction longestName? t n with
  | case1 => exact .inr ⟨fun size value h => by have := h.bounds; omega, rfl⟩
  | case2 => exact .inr ⟨fun size value h => by have := h.bounds; omega, rfl⟩
  | case3 n value hnamed =>
    exact .inl ⟨n + 2, value, ⟨hn, hnamed⟩, Nat.le_refl _, fun _ _ _ h => h, rfl⟩
  | case4 n hnamed ih =>
    have hnot : ∀ value, ¬ Listed t (n + 2) value := by
      intro value h
      rw [h.named] at hnamed
      cases hnamed
    have hne : ∀ {size value}, Listed t size value → size ≠ n + 2 := by
      rintro _ value h rfl
      exact hnot value h
    rcases ih (by omega) with ⟨size, value, hlisted, hle, hmax, heq⟩ | ⟨hnone, heq⟩
    · refine .inl ⟨size, value, hlisted, by omega, fun size' value' h hle' => ?_, heq⟩
      have := hne h
      exact hmax size' value' h (by omega)
    · refine .inr ⟨fun size value h => ?_, heq⟩
      have := hne h
      have := hnone size value h
      omega

/-- **What a name stands for**: its longest listed part is replaced, and a name
with no such part stands for itself behind its `&`. -/
theorem ofName_cases (t : Text) :
    (∃ size value, Longest t size value ∧ ofName t = value ++ t.drop size) ∨
      Unlisted t ∧ ofName t = '&' :: t := by
  unfold ofName
  cases hnamed : named? t with
  | some value =>
    have hwhole : Listed t t.length value := ⟨Nat.le_refl _, by rwa [List.take_length]⟩
    exact .inl ⟨t.length, value, ⟨hwhole, fun _ _ h => h.le_length⟩, by simp⟩
  | none =>
    -- the whole name is not listed, so the shorter ones are all there are
    have hlt : ∀ {size value}, Listed t size value → size ≤ t.length - 1 := by
      intro size value h
      have hle := h.le_length
      have hne : size ≠ t.length := by
        rintro rfl
        have hsome := h.named
        rw [List.take_length, hnamed] at hsome
        cases hsome
      omega
    rcases longestName?_cases (t := t) (n := t.length - 1) (by omega) with
      ⟨size, value, hlisted, -, hmax, heq⟩ | ⟨hnone, heq⟩
    · refine .inl ⟨size, value, ⟨hlisted, fun _ _ h => hmax _ _ h (hlt h)⟩, ?_⟩
      simp [heq]
    · refine .inr ⟨fun size value h => ?_, by simp [heq]⟩
      have := hnone size value h
      have := hlt h
      omega

/-- A text begins with a longest listed name, or with none. -/
theorem longest_or_unlisted (t : Text) : (∃ size value, Longest t size value) ∨ Unlisted t :=
  (ofName_cases t).imp (fun ⟨size, value, h, _⟩ => ⟨size, value, h⟩) And.left

/-- The longest listed name is replaced. -/
theorem ofName_of_longest (h : Longest t size value) : ofName t = value ++ t.drop size := by
  rcases ofName_cases t with ⟨size', value', h', heq⟩ | ⟨hnone, -⟩
  · obtain ⟨rfl, rfl⟩ := h.unique h'
    exact heq
  · exact absurd h.listed (hnone size value)

/-- Without one a name stands for itself. -/
theorem ofName_of_unlisted (h : Unlisted t) : ofName t = '&' :: t := by
  rcases ofName_cases t with ⟨size', value', h', -⟩ | ⟨-, heq⟩
  · exact absurd h'.listed (h size' value')
  · exact heq

/-! ## Reading texts -/

/-- A character with which no reference begins. -/
def isPlain (c : Char) : Bool := c != '&'

/-- Skipping leaves the rest to be read. -/
theorem unescapeFrom_eq (n : Nat) (t : Text) : unescapeFrom n t = unescape (t.drop n) := by
  induction n generalizing t with
  | zero => rfl
  | succ n ih =>
    cases t with
    | nil => rfl
    | cons c t => exact ih t

/-- A `&` is read with what follows it. -/
theorem unescape_ampersand (t : Text) : unescape ('&' :: t) =
    match read? t with
    | some (value, used) => value ++ unescape (t.drop used)
    | none => '&' :: unescape t := by
  unfold unescape
  rw [unescapeFrom, if_pos rfl]
  rcases read? t with _ | ⟨value, used⟩
  · rfl
  · exact congrArg (value ++ ·) (unescapeFrom_eq used t)

/-- Any other character stands for itself. -/
theorem unescape_of_plain {c : Char} (hc : isPlain c = true) :
    unescape (c :: t) = c :: unescape t := by
  unfold unescape
  rw [unescapeFrom, if_neg (by simpa [isPlain] using hc)]

/-- **So does a run of them.** -/
theorem unescape_of_run (h : t.Run isPlain 0 n) :
    unescape t = t.take n ++ unescape (t.drop n) := by
  induction n generalizing t with
  | zero => rfl
  | succ n ih =>
    obtain ⟨c, hc, hplain⟩ := h 0 (Nat.le_refl 0) (Nat.succ_pos n)
    cases t with
    | nil => cases hc
    | cons d t =>
      cases hc
      rw [unescape_of_plain hplain, ih (run_cons_iff.1 (h.mono (Nat.zero_le _) (Nat.le_refl _)))]
      rfl

/-- A text of such characters only. -/
theorem unescape_eq_self (h : t.Run isPlain 0 t.length) : unescape t = t := by
  rw [unescape_of_run h, List.take_length, List.drop_length]
  exact List.append_nil t

end Reference

end SingleFile
