import SingleFile.Location
import SingleFile.Proofs.Text.Run

/-!
# Lines — the heads of a text and the positions between them

The heads of the lines of a text are those of its parts, as long as the
text is not cut between the CR and the LF of one line end
(`lineHeads_append`). A position is the number of heads passed and the
distance from the last of them, so the position of an offset in a part
follows from the heads before the part and those inside it
(`positionAt_of_parts`), and walking over a part leads from the position
of its start to that of its end (`advance_slice`). Only a part that ends
between the CR and the LF of one line end leads elsewhere
(`advance_slice_iff`). Nothing but the characters that end lines counts
for a position (`positionAt_blankOut`), and nothing behind it
(`positionAt_append`).
-/

namespace SingleFile

namespace Text

/-- An offset lies between the CR and the LF of one line end. -/
def SplitsLineEnd (t : Text) (o : Nat) : Prop :=
  0 < o ∧ t[o - 1]? = some '\r' ∧ t[o]? = some '\n'

instance (t : Text) (o : Nat) : Decidable (t.SplitsLineEnd o) := by
  unfold SplitsLineEnd
  infer_instance

variable {t u v w : Text} {k o : Nat}

/-- Where the character before is no CR, no line end is divided. -/
theorem not_splitsLineEnd_of_before {c : Char} (h : t[o - 1]? = some c) (hc : c ≠ '\r') :
    ¬ t.SplitsLineEnd o := by
  intro hs
  have heq := hs.2.1
  rw [h, Option.some.injEq] at heq
  exact hc heq

/-- Nor where the character after is no LF. -/
theorem not_splitsLineEnd_of_after {c : Char} (h : t[o]? = some c) (hc : c ≠ '\n') :
    ¬ t.SplitsLineEnd o := by
  intro hs
  have heq := hs.2.2
  rw [h, Option.some.injEq] at heq
  exact hc heq

/-- A line end further on is divided in the rest of the text as well. -/
theorem splitsLineEnd_cons {c : Char} (h : t.SplitsLineEnd o) : SplitsLineEnd (c :: t) (o + 1) := by
  obtain ⟨hpos, hcr, hlf⟩ := h
  refine ⟨Nat.succ_pos o, ?_, hlf⟩
  rw [Nat.add_sub_cancel, show o = o - 1 + 1 by omega, List.getElem?_cons_succ]
  exact hcr

/-- A CR at the end of a text is that of no CRLF, when no line end is divided there. -/
theorem not_crlf_append {c : Char} (hcrlf : ∀ v, c = '\r' → t = '\n' :: v → False)
    (h : ¬ SplitsLineEnd (c :: t ++ u) (c :: t).length) :
    ¬ (c = '\r' ∧ (t ++ u).head? = some '\n') := by
  rintro ⟨rfl, hlf⟩
  cases t with
  | nil =>
    refine h ⟨Nat.one_pos, rfl, ?_⟩
    rw [List.nil_append, List.head?_eq_getElem?] at hlf
    exact hlf
  | cons d t =>
    rw [List.cons_append, List.head?_cons, Option.some.injEq] at hlf
    exact hcrlf t rfl (by rw [hlf])

/-! ## Heads -/

/-- A character that is not the CR of a CRLF ends a line alone, or ends none. -/
theorem lineHeads_cons {c : Char} (h : ¬ (c = '\r' ∧ t.head? = some '\n')) :
    lineHeads k (c :: t) =
      if isTerminator c then (k + 1) :: lineHeads (k + 1) t else lineHeads (k + 1) t := by
  rw [lineHeads]
  rintro u rfl rfl
  exact h ⟨rfl, rfl⟩

/-- Heads lie after the start of the text and not after its end. -/
theorem bounds_of_mem_lineHeads {h : Nat} (hh : h ∈ lineHeads k t) :
    k < h ∧ h ≤ k + t.length := by
  fun_induction lineHeads k t with
  | case1 => simp at hh
  | case2 k t ih =>
    simp only [List.length_cons]
    rcases List.mem_cons.1 hh with rfl | hh
    · omega
    · have := ih hh
      omega
  | case3 k c t _ _ ih =>
    simp only [List.length_cons]
    rcases List.mem_cons.1 hh with rfl | hh
    · omega
    · have := ih hh
      omega
  | case4 k c t _ _ ih =>
    have := ih hh
    simp only [List.length_cons]
    omega

/-- No head lies at or before an offset that is not past the start. -/
theorem takeWhile_lineHeads_eq_nil (h : o ≤ k) : (lineHeads k t).takeWhile (· ≤ o) = [] := by
  cases hheads : lineHeads k t with
  | nil => rfl
  | cons head rest =>
    have hbounds : k < head ∧ _ := bounds_of_mem_lineHeads (hheads ▸ List.mem_cons_self)
    rw [List.takeWhile_cons_of_neg]
    rw [decide_eq_true_eq]
    omega

/-- **The heads of a text are those of its parts**, unless a line end is divided
between them. -/
theorem lineHeads_append (h : ¬ SplitsLineEnd (t ++ u) t.length) :
    lineHeads k (t ++ u) = lineHeads k t ++ lineHeads (k + t.length) u := by
  fun_induction lineHeads k t with
  | case1 => rfl
  | case2 k t ih =>
    have hrest : ¬ SplitsLineEnd (t ++ u) t.length := fun hs =>
      h (splitsLineEnd_cons (splitsLineEnd_cons hs))
    have hlen : k + 2 + t.length = k + ('\r' :: '\n' :: t).length := by
      simp only [List.length_cons]
      omega
    rw [List.cons_append, List.cons_append, lineHeads, ih hrest, hlen, List.cons_append]
  | case3 k c t hcrlf hterm ih | case4 k c t hcrlf hterm ih =>
    have hrest : ¬ SplitsLineEnd (t ++ u) t.length := fun hs => h (splitsLineEnd_cons hs)
    have hlen : k + 1 + t.length = k + (c :: t).length := by
      simp only [List.length_cons]
      omega
    rw [List.cons_append, lineHeads_cons (not_crlf_append hcrlf h), ih hrest, hlen]
    simp [hterm]

/-- The heads up to an offset are no more than the characters up to it. -/
theorem length_takeWhile_lineHeads_le (n : Nat) :
    ((lineHeads k t).takeWhile (· ≤ k + n)).length ≤ n := by
  fun_induction lineHeads k t generalizing n with
  | case1 => exact Nat.zero_le n
  | case2 k t ih =>
    rw [List.takeWhile_cons]
    split
    · rename_i hle
      have hle : k + 2 ≤ k + n := of_decide_eq_true hle
      have hrest := ih (n - 2)
      rw [show k + 2 + (n - 2) = k + n by omega] at hrest
      simp only [List.length_cons]
      omega
    · exact Nat.zero_le n
  | case3 k c t _ _ ih =>
    rw [List.takeWhile_cons]
    split
    · rename_i hle
      have hle : k + 1 ≤ k + n := of_decide_eq_true hle
      have hrest := ih (n - 1)
      rw [show k + 1 + (n - 1) = k + n by omega] at hrest
      simp only [List.length_cons]
      omega
    · exact Nat.zero_le n
  | case4 k c t _ _ ih =>
    cases n with
    | zero =>
      -- all heads of the rest lie further on
      rw [takeWhile_lineHeads_eq_nil (by omega)]
      exact Nat.le_refl 0
    | succ n =>
      have hrest := ih n
      rw [show k + 1 + n = k + (n + 1) by omega] at hrest
      exact Nat.le_succ_of_le hrest

/-- Spaces end no line. -/
theorem lineHeads_replicate_space (n : Nat) : lineHeads k (List.replicate n ' ') = [] := by
  induction n generalizing k with
  | zero => rfl
  | succ n ih =>
    rw [List.replicate_succ, lineHeads_cons (by simp), ih]
    rfl

/-- Each of several line feeds ends a line. -/
theorem lineHeads_replicate_lineFeed (n : Nat) :
    lineHeads k (List.replicate n '\n') = List.range' (k + 1) n := by
  induction n generalizing k with
  | zero => rfl
  | succ n ih =>
    rw [List.replicate_succ, lineHeads_cons (by simp), ih, List.range'_succ]
    rfl

/-! ## Heads up to an offset -/

/-- **The heads up to an offset** in the middle one of three parts: those of the
part before, and those in the part itself. -/
theorem takeWhile_lineHeads_parts (hu : ¬ SplitsLineEnd (u ++ (v ++ w)) u.length)
    (hv : ¬ SplitsLineEnd (u ++ (v ++ w)) (u.length + v.length)) (h1 : u.length ≤ o)
    (h2 : o ≤ u.length + v.length) :
    (lineHeads 0 (u ++ (v ++ w))).takeWhile (· ≤ o) =
      lineHeads 0 u ++ (lineHeads u.length v).takeWhile (· ≤ o) := by
  have hv' : ¬ SplitsLineEnd ((u ++ v) ++ w) (u ++ v).length := by
    rwa [List.append_assoc, List.length_append]
  have hsplit : lineHeads 0 (u ++ (v ++ w)) =
      (lineHeads 0 u ++ lineHeads u.length v) ++ lineHeads (u.length + v.length) w := by
    have hu' : ¬ SplitsLineEnd (u ++ v) u.length := by
      rintro ⟨hpos, hcr, hlf⟩
      have hlt := (List.getElem?_eq_some_iff.1 hlf).1
      refine hu ⟨hpos, ?_, ?_⟩
      · rw [← List.append_assoc, List.getElem?_append_left (by omega)]
        exact hcr
      · rw [← List.append_assoc, List.getElem?_append_left hlt]
        exact hlf
    rw [← List.append_assoc, lineHeads_append hv', lineHeads_append hu', List.length_append]
    simp only [Nat.zero_add]
  have hall : ∀ h ∈ lineHeads 0 u, decide (h ≤ o) = true := by
    intro h hh
    have := bounds_of_mem_lineHeads hh
    exact decide_eq_true (by omega)
  have hnone : (lineHeads (u.length + v.length) w).takeWhile (· ≤ o) = [] :=
    takeWhile_lineHeads_eq_nil h2
  rw [hsplit, List.append_assoc, List.takeWhile_append_of_pos hall, List.takeWhile_append]
  split
  · rename_i hlen
    rw [hnone, List.append_nil]
    rw [(List.takeWhile_prefix _).eq_of_length hlen]
  · rfl

/-- The heads of a text up to an offset before its end are there whatever follows: only its last
line end may go on, and that ends past the offset either way. -/
theorem takeWhile_lineHeads_append (h : o < k + t.length) :
    (lineHeads k (t ++ u)).takeWhile (· ≤ o) = (lineHeads k t).takeWhile (· ≤ o) := by
  fun_induction lineHeads k t with
  | case1 k =>
    have hle : o ≤ k := Nat.le_of_lt h
    exact takeWhile_lineHeads_eq_nil hle
  | case2 k t ih =>
    rw [List.cons_append, List.cons_append, lineHeads, List.takeWhile_cons, List.takeWhile_cons,
      ih (by simp only [List.length_cons] at h; omega)]
  | case3 k c t hcrlf hterm ih | case4 k c t hcrlf hterm ih =>
    have hlen : o < k + 1 + t.length := by
      simp only [List.length_cons] at h
      omega
    by_cases hcr : c = '\r' ∧ (t ++ u).head? = some '\n'
    · have hnil : t = [] := by
        cases t with
        | nil => rfl
        | cons d t =>
          have hd : d = '\n' := by simpa using hcr.2
          exact (hcrlf t hcr.1 (by rw [hd])).elim
      have hfirst : o ≤ k := by
        rw [hnil] at hlen
        exact Nat.le_of_lt_succ hlen
      have hrest := takeWhile_lineHeads_eq_nil (t := c :: t) hfirst
      rw [lineHeads_cons (by rw [hnil]; simp)] at hrest
      simp only [hterm, if_true] at hrest
      rw [takeWhile_lineHeads_eq_nil hfirst]
      simpa using hrest.symm
    · rw [List.cons_append, lineHeads_cons hcr]
      simp [hterm, List.takeWhile_cons, ih hlen]

/-! ## Blanked texts -/

/-- Blanking a text keeps its length. -/
@[simp] theorem length_blankOut (t : Text) : (blankOut t).length = t.length := List.length_map _

/-- Texts that are blanked alike are equally long. -/
theorem length_eq_of_blankOut_eq (h : blankOut t = blankOut u) : t.length = u.length := by
  have hlen := congrArg List.length h
  rwa [length_blankOut, length_blankOut] at hlen

/-- Texts are blanked part by part. -/
theorem blankOut_append (t u : Text) : blankOut (t ++ u) = blankOut t ++ blankOut u :=
  List.map_append

/-- Blanking keeps the characters that end lines. -/
theorem blankOut_cons_of_terminator {c : Char} (h : isTerminator c = true) :
    blankOut (c :: t) = c :: blankOut t := by
  unfold blankOut
  rw [List.map_cons, if_pos h]

/-- Every other one becomes a space. -/
theorem blankOut_cons_of_not_terminator {c : Char} (h : isTerminator c = false) :
    blankOut (c :: t) = ' ' :: blankOut t := by
  unfold blankOut
  rw [List.map_cons, if_neg (by rw [h]; decide)]

/-- A blanked text begins with a line feed when the text does. -/
theorem head?_blankOut_eq_lineFeed : (blankOut t).head? = some '\n' ↔ t.head? = some '\n' := by
  cases t with
  | nil => exact Iff.rfl
  | cons c t =>
    cases hc : isTerminator c with
    | true => rw [blankOut_cons_of_terminator hc, List.head?_cons, List.head?_cons]
    | false =>
      rw [blankOut_cons_of_not_terminator hc, List.head?_cons, List.head?_cons]
      refine iff_of_false (by decide) fun heq => ?_
      rw [Option.some.inj heq] at hc
      exact absurd hc (by decide)

/-- **Blanking moves no line.** -/
theorem lineHeads_blankOut : lineHeads k (blankOut t) = lineHeads k t := by
  fun_induction lineHeads k t with
  | case1 => rfl
  | case2 k t ih =>
    rw [blankOut_cons_of_terminator (by decide), blankOut_cons_of_terminator (by decide), lineHeads,
      ih]
  | case3 k c t hcrlf hterm ih =>
    have hhead : ¬ (c = '\r' ∧ (blankOut t).head? = some '\n') := by
      rw [head?_blankOut_eq_lineFeed]
      rintro ⟨hc, hlf⟩
      obtain ⟨v, rfl⟩ := List.head?_eq_some_iff.1 hlf
      exact hcrlf v hc rfl
    rw [blankOut_cons_of_terminator hterm, lineHeads_cons hhead, if_pos hterm, ih]
  | case4 k c t hcrlf hterm ih =>
    rw [blankOut_cons_of_not_terminator (by simpa using hterm), lineHeads_cons (by simp),
      if_neg (by decide), ih]

end Text

/-! ## Positions -/

/-- The last of the heads of two parts. -/
theorem getLastD_append (xs ys : List Nat) (d : Nat) :
    (xs ++ ys).getLastD d = ys.getLastD (xs.getLastD d) := by
  induction xs generalizing d with
  | nil => rfl
  | cons x xs ih =>
    rw [List.cons_append, List.getLastD_cons, List.getLastD_cons]
    exact ih x

/-- **Walking over a text** that begins at `k`, on a line whose head is `h`: a line
further for every head, in a column counted from the last of them. -/
theorem Position.advance_eq (line : Int) (k h : Nat) (t : Text) :
    Position.advance ⟨line, k - h⟩ t =
      ⟨line + (t.lineHeads k).length, (k + t.length : Nat) - ((t.lineHeads k).getLastD h : Int)⟩ := by
  fun_induction Text.lineHeads k t generalizing line h with
  | case1 => simp [Position.advance]
  | case2 k t ih =>
    have hrest := ih (line + 1) (k + 2)
    rw [Int.sub_self] at hrest
    rw [Position.advance, hrest, List.getLastD_cons]
    simp only [List.length_cons, Position.mk.injEq]
    omega
  | case3 k c t hcrlf hterm ih =>
    have hrest := ih (line + 1) (k + 1)
    rw [Int.sub_self] at hrest
    rw [Position.advance, if_pos hterm, hrest, List.getLastD_cons]
    · simp only [List.length_cons, Position.mk.injEq]
      omega
    · exact hcrlf
  | case4 k c t hcrlf hterm ih =>
    have hrest := ih line h
    rw [Position.advance, if_neg hterm]
    · rw [show (k : Int) - h + 1 = (k + 1 : Nat) - h by omega, hrest]
      simp only [List.length_cons, Position.mk.injEq, true_and]
      omega
    · exact hcrlf

/-- A character that is not the CR of a CRLF is walked over alone. -/
theorem Position.advance_cons {c : Char} {t : Text} (p : Position)
    (h : ¬ (c = '\r' ∧ t.head? = some '\n')) :
    p.advance (c :: t) =
      if Text.isTerminator c then advance ⟨p.line + 1, 0⟩ t
      else advance ⟨p.line, p.column + 1⟩ t := by
  rw [advance]
  rintro u rfl rfl
  exact h ⟨rfl, rfl⟩

/-- **Walking over two texts** is walking over the first and then over the second, unless a line
end is divided between them. -/
theorem Position.advance_append {t u : Text} (p : Position)
    (h : ¬ Text.SplitsLineEnd (t ++ u) t.length) : p.advance (t ++ u) = (p.advance t).advance u := by
  fun_induction Position.advance p t with
  | case1 p => rfl
  | case2 p t ih =>
    have hrest : ¬ Text.SplitsLineEnd (t ++ u) t.length := fun hs =>
      h (Text.splitsLineEnd_cons (Text.splitsLineEnd_cons hs))
    rw [List.cons_append, List.cons_append, advance, ih hrest]
  | case3 p c t hcrlf hterm ih | case4 p c t hcrlf hterm ih =>
    have hrest : ¬ Text.SplitsLineEnd (t ++ u) t.length := fun hs =>
      h (Text.splitsLineEnd_cons hs)
    rw [List.cons_append, advance_cons p (Text.not_crlf_append hcrlf h), ih hrest]
    simp [hterm]

namespace LineIndex

variable {u v w : Text} {o : Nat}

/-- Lines are counted along the text. -/
theorem line_le_line (t : Text) {a b : Nat} (h : a ≤ b) :
    ((ofText t).positionAt a).line ≤ ((ofText t).positionAt b).line := by
  have hpassed : ((t.lineHeads 0).takeWhile (· ≤ a)).length ≤
      ((t.lineHeads 0).takeWhile (· ≤ b)).length := by
    refine Text.length_takeWhile_le (fun head hhead => ?_) _
    rw [decide_eq_true_eq] at hhead ⊢
    omega
  simp only [positionAt, ofText]
  omega

/-- On the first line the column is the offset. -/
theorem column_of_line_one {t : Text} {a : Nat} (h : ((ofText t).positionAt a).line = 1) :
    ((ofText t).positionAt a).column = a := by
  simp only [positionAt, ofText] at h ⊢
  have hnone : (t.lineHeads 0).takeWhile (· ≤ a) = [] := by
    rw [← List.length_eq_zero_iff]
    omega
  rw [hnone]
  simp

/-- **An offset has its position in every text that begins alike**; past the last character that
takes a line end that is not divided there. -/
theorem positionAt_append
    (h : o < u.length ∨ o = u.length ∧ ¬ Text.SplitsLineEnd (u ++ v) u.length) :
    (ofText (u ++ v)).positionAt o = (ofText u).positionAt o := by
  have hpassed : ((u ++ v).lineHeads 0).takeWhile (· ≤ o) = (u.lineHeads 0).takeWhile (· ≤ o) := by
    rcases h with hlt | ⟨heq, hs⟩
    · exact Text.takeWhile_lineHeads_append (by omega)
    · have hnone : (Text.lineHeads (0 + u.length) v).takeWhile (· ≤ o) = [] :=
        Text.takeWhile_lineHeads_eq_nil (by omega)
      have hall : ∀ head ∈ u.lineHeads 0, decide (head ≤ o) = true := by
        intro head hhead
        have := (Text.bounds_of_mem_lineHeads hhead).2
        exact decide_eq_true (by omega)
      rw [Text.lineHeads_append hs, List.takeWhile_append_of_pos hall, hnone, List.append_nil,
        List.takeWhile_eq_self_iff.2 hall]
  unfold positionAt ofText
  rw [hpassed]

/-- Blanking moves no position. -/
theorem positionAt_blankOut (t : Text) (o : Nat) :
    (ofText (Text.blankOut t)).positionAt o = (ofText t).positionAt o := by
  unfold positionAt ofText
  rw [Text.lineHeads_blankOut]

/-- **Texts that begin alike but for the characters that end no line** have the same positions
there. -/
theorem positionAt_congr {t : Text} (h : Text.blankOut t = Text.blankOut u)
    (ho : o < t.length ∨ o = t.length ∧ ¬ Text.SplitsLineEnd (t ++ v) t.length ∧
      ¬ Text.SplitsLineEnd (u ++ w) u.length) :
    (ofText (t ++ v)).positionAt o = (ofText (u ++ w)).positionAt o := by
  have hlen := Text.length_eq_of_blankOut_eq h
  have ht : (ofText (t ++ v)).positionAt o = (ofText t).positionAt o :=
    positionAt_append (ho.imp_right fun hend => ⟨hend.1, hend.2.1⟩)
  have hu : (ofText (u ++ w)).positionAt o = (ofText u).positionAt o := by
    rw [hlen] at ho
    exact positionAt_append (ho.imp_right fun hend => ⟨hend.1, hend.2.2⟩)
  rw [ht, hu, ← positionAt_blankOut t, h, positionAt_blankOut]

/-- **The position of an offset** in the middle one of three parts. -/
theorem positionAt_of_parts (hu : ¬ Text.SplitsLineEnd (u ++ (v ++ w)) u.length)
    (hv : ¬ Text.SplitsLineEnd (u ++ (v ++ w)) (u.length + v.length)) (h1 : u.length ≤ o)
    (h2 : o ≤ u.length + v.length) :
    (ofText (u ++ (v ++ w))).positionAt o =
      ⟨(Text.lineHeads 0 u).length + ((Text.lineHeads u.length v).takeWhile (· ≤ o)).length + 1,
        o - ((Text.lineHeads u.length v).takeWhile (· ≤ o)).getLastD
          ((Text.lineHeads 0 u).getLastD 0)⟩ := by
  have hpassed := Text.takeWhile_lineHeads_parts hu hv h1 h2
  unfold positionAt ofText
  simp only [hpassed, List.length_append, getLastD_append, Position.mk.injEq, and_true]
  omega

/-- Walking over the middle one of three parts leads from the position of its start
to that of its end. -/
theorem advance_of_parts (hu : ¬ Text.SplitsLineEnd (u ++ (v ++ w)) u.length)
    (hv : ¬ Text.SplitsLineEnd (u ++ (v ++ w)) (u.length + v.length)) :
    ((ofText (u ++ (v ++ w))).positionAt u.length).advance v =
      (ofText (u ++ (v ++ w))).positionAt (u.length + v.length) := by
  have hall : (Text.lineHeads u.length v).takeWhile (· ≤ u.length + v.length) =
      Text.lineHeads u.length v := by
    rw [List.takeWhile_eq_self_iff]
    intro head hhead
    exact decide_eq_true (Text.bounds_of_mem_lineHeads hhead).2
  rw [positionAt_of_parts hu hv (Nat.le_refl _) (by omega),
    positionAt_of_parts hu hv (by omega) (Nat.le_refl _), hall,
    Text.takeWhile_lineHeads_eq_nil (Nat.le_refl _)]
  simp only [List.length_nil, List.getLastD_nil]
  rw [Position.advance_eq]
  simp only [Position.mk.injEq, and_true]
  omega

section

variable {t : Text} {a b : Nat}

/-- A slice as the middle one of the three parts that it makes of a text. -/
theorem exists_parts (hab : a ≤ b) (hb : b ≤ t.length) :
    ∃ u w, t = u ++ (t.slice a b ++ w) ∧ u.length = a ∧ u.length + (t.slice a b).length = b := by
  have hlen : (t.take a).length = a := by
    rw [List.length_take]
    omega
  refine ⟨t.take a, t.drop b, (Text.take_append_slice_append_drop hb hab).symm, hlen, ?_⟩
  rw [hlen, Text.length_slice hb hab]
  omega

/-- **The position of an offset in a slice**, from that of the start of the slice:
as many lines further as heads are passed, in a column counted from the last of
them or, when none is passed, on from the start. -/
theorem positionAt_slice (hab : a ≤ b) (hb : b ≤ t.length) (hsa : ¬ t.SplitsLineEnd a)
    (hsb : ¬ t.SplitsLineEnd b) (h1 : a ≤ o) (h2 : o ≤ b) :
    (ofText t).positionAt o =
      ⟨((ofText t).positionAt a).line +
          (((t.slice a b).lineHeads a).takeWhile (· ≤ o)).length,
        match (((t.slice a b).lineHeads a).takeWhile (· ≤ o)).getLast? with
        | none => ((ofText t).positionAt a).column + (o - a)
        | some head => o - head⟩ := by
  obtain ⟨u, w, ht, hu, hv⟩ := exists_parts hab hb
  generalize t.slice a b = v at ht hv ⊢
  subst ht hu hv
  rw [positionAt_of_parts hsa hsb h1 h2, positionAt_of_parts hsa hsb (Nat.le_refl _) hab,
    Text.takeWhile_lineHeads_eq_nil (Nat.le_refl _)]
  cases hlast : ((v.lineHeads u.length).takeWhile (· ≤ o)).getLast? with
  | none =>
    rw [List.getLast?_eq_none_iff] at hlast
    simp only [hlast, List.length_nil, List.getLastD_nil, Position.mk.injEq]
    omega
  | some head =>
    simp only [List.getLastD_eq_getLast?, hlast, Option.getD_some, List.length_nil,
      Position.mk.injEq, and_true]
    omega

/-- **Walking over a slice** of a text leads from the position of its start to that
of its end, unless either divides a line end. -/
theorem advance_slice (hab : a ≤ b) (hb : b ≤ t.length) (hsa : ¬ t.SplitsLineEnd a)
    (hsb : ¬ t.SplitsLineEnd b) :
    ((ofText t).positionAt a).advance (t.slice a b) = (ofText t).positionAt b := by
  obtain ⟨u, w, ht, hu, hv⟩ := exists_parts hab hb
  generalize t.slice a b = v at ht hv ⊢
  subst ht hu hv
  exact advance_of_parts hsa hsb

/-! ## Divided line ends -/

/-- **Inside a line end** nothing has ended: the position goes on from the CR, and the next
line begins behind the LF. -/
theorem positionAt_of_splitsLineEnd (h : t.SplitsLineEnd o) :
    (ofText t).positionAt o =
        ⟨((ofText t).positionAt (o - 1)).line, ((ofText t).positionAt (o - 1)).column + 1⟩ ∧
      (ofText t).positionAt (o + 1) = ⟨((ofText t).positionAt (o - 1)).line + 1, 0⟩ := by
  obtain ⟨hpos, hcr, hlf⟩ := h
  have hlt : o < t.length := (List.getElem?_eq_some_iff.1 hlf).1
  have hbefore : ¬ t.SplitsLineEnd (o - 1) := Text.not_splitsLineEnd_of_after hcr (by decide)
  have hafter : ¬ t.SplitsLineEnd (o + 1) :=
    Text.not_splitsLineEnd_of_before (show t[o + 1 - 1]? = some '\n' from hlf) (by decide)
  have hslice : t.slice (o - 1 : Nat) (o + 1 : Nat) = ['\r', '\n'] := by
    have hfirst := Text.slice_succ hcr
    rw [Nat.sub_add_cancel hpos] at hfirst
    rw [← Text.slice_append_slice (b := o) hlt (by omega) (by omega), hfirst, Text.slice_succ hlf]
    rfl
  have hheads : Text.lineHeads (o - 1) ['\r', '\n'] = [o + 1] := by
    rw [Text.lineHeads, Text.lineHeads, show o - 1 + 2 = o + 1 by omega]
  have hposition := fun (k : Nat) (h1 : o - 1 ≤ k) (h2 : k ≤ o + 1) =>
    positionAt_slice (by omega) (by omega) hbefore hafter h1 h2
  constructor
  · have hat := hposition o (by omega) (by omega)
    rw [hslice, hheads, List.takeWhile_cons_of_neg (by simp)] at hat
    rw [hat]
    simp only [List.length_nil, List.getLast?_nil, Position.mk.injEq]
    omega
  · have hat := hposition (o + 1) (by omega) (Nat.le_refl _)
    rw [hslice, hheads, List.takeWhile_cons_of_pos (by simp)] at hat
    rw [hat]
    simp

/-- Behind a divided line end it does not matter that the walk begins at the LF: that ends a line
as the whole of it does. -/
theorem advance_slice_of_stop (hab : a ≤ b) (hb : b ≤ t.length) (hsb : ¬ t.SplitsLineEnd b) :
    ((ofText t).positionAt a).advance (t.slice a b) = (ofText t).positionAt b := by
  by_cases hsa : t.SplitsLineEnd a
  · have hlt : a < b := Nat.lt_of_le_of_ne hab fun heq => hsb (heq ▸ hsa)
    have hsnext : ¬ t.SplitsLineEnd (a + 1) :=
      Text.not_splitsLineEnd_of_before (show t[a + 1 - 1]? = some '\n' from hsa.2.2) (by decide)
    obtain ⟨hat, hnext⟩ := positionAt_of_splitsLineEnd hsa
    have hrest := advance_slice (Nat.succ_le_of_lt hlt) hb hsnext hsb
    rw [← Text.slice_append_slice (b := a + 1) hb (by omega) hlt, Text.slice_succ hsa.2.2,
      List.singleton_append, Position.advance_cons _ (by simp), if_pos (by decide), hat, ← hrest,
      hnext]
  · exact advance_slice hab hb hsa hsb

/-- **Where the walk over a slice leads to the position of its end**: everywhere but between the
CR and the LF of one line end, for the CR alone is taken for a line end. -/
theorem advance_slice_iff (hab : a ≤ b) (hb : b ≤ t.length) :
    ((ofText t).positionAt a).advance (t.slice a b) = (ofText t).positionAt b ↔
      a = b ∨ ¬ t.SplitsLineEnd b := by
  constructor
  · intro hwalk
    by_contra hnot
    obtain ⟨hne, hsb⟩ := not_or.1 hnot
    have hsb := not_not.1 hsb
    have hpos := hsb.1
    -- up to the CR the walk agrees, and then it counts a line that has not ended
    have hbefore : ¬ t.SplitsLineEnd (b - 1) := Text.not_splitsLineEnd_of_after hsb.2.1 (by decide)
    have hfront := advance_slice_of_stop (t := t) (a := a) (b := b - 1) (by omega) (by omega) hbefore
    have hlast := Text.slice_succ hsb.2.1
    rw [Nat.sub_add_cancel hpos] at hlast
    have hlen := Text.length_slice (t := t) (a := a) (b := b - 1) (by omega) (by omega)
    rw [← Text.slice_append_slice (b := b - 1) hb (by omega) (by omega), hlast,
      Position.advance_append _ (fun hs => ?_), hfront, Position.advance_cons _ (by simp),
      if_pos (by decide), (positionAt_of_splitsLineEnd hsb).1] at hwalk
    · have hline := congrArg Position.line hwalk
      simp only [Position.advance] at hline
      omega
    · have hlf := hs.2.2
      rw [List.getElem?_append_right (Nat.le_refl _), Nat.sub_self] at hlf
      exact absurd hlf (by decide)
  · rintro (rfl | hsb)
    · have hnil : t.slice a a = [] := by
        rw [Text.slice_natCast hb (Nat.le_refl a), List.drop_take_self]
      rw [hnil, Position.advance]
    · exact advance_slice_of_stop hab hb hsb

end

/-! ## Texts that begin alike -/

section

variable {t : Text}

/-- A CR that ends a text ends every text that is blanked alike. -/
theorem getElem?_cr_of_blankOut_eq (h : Text.blankOut t = Text.blankOut u) {o : Nat}
    (hcr : t[o]? = some '\r') : u[o]? = some '\r' := by
  have hsame := congrArg (·[o]?) h
  simp only [Text.blankOut, List.getElem?_map, hcr, Option.map_some] at hsame
  obtain ⟨d, hd, heq⟩ := Option.map_eq_some_iff.1 hsame.symm
  split at heq
  · rw [hd, heq]
    rfl
  · cases heq

/-- A line end that one text divides and another, which begins alike, does not is told by the
position there. -/
theorem splitsLineEnd_of_positionAt_eq (h : Text.blankOut t = Text.blankOut u)
    (heq : (ofText (t ++ v)).positionAt t.length = (ofText (u ++ w)).positionAt u.length)
    (hs : Text.SplitsLineEnd (t ++ v) t.length) : Text.SplitsLineEnd (u ++ w) u.length := by
  have hlen := Text.length_eq_of_blankOut_eq h
  have hpos := hs.1
  have hcr : (u ++ w)[u.length - 1]? = some '\r' := by
    have ht := hs.2.1
    rw [List.getElem?_append_left (by omega)] at ht ⊢
    rw [← hlen]
    exact getElem?_cr_of_blankOut_eq h ht
  by_contra hn
  -- the CR alone ends a line in the second text, and in the first it does not
  have hbefore : ¬ Text.SplitsLineEnd (u ++ w) (u.length - 1) :=
    Text.not_splitsLineEnd_of_after hcr (by decide)
  have hbound : u.length ≤ (u ++ w).length := by
    rw [List.length_append]
    omega
  have hwalk := advance_slice (show u.length - 1 ≤ u.length by omega) hbound hbefore hn
  have hlast := Text.slice_succ hcr
  rw [show u.length - 1 + 1 = u.length by omega] at hlast
  have hsame : (ofText (t ++ v)).positionAt (u.length - 1) =
      (ofText (u ++ w)).positionAt (u.length - 1) := positionAt_congr h (.inl (by omega))
  rw [hlast, Position.advance_cons _ (by simp), if_pos (by decide), ← heq,
    (positionAt_of_splitsLineEnd hs).1, hlen, hsame] at hwalk
  have hline := congrArg Position.line hwalk
  simp only [Position.advance] at hline
  omega

/-- **Texts that begin alike but for the characters that end no line** have the same position
where that part ends exactly when both divide a line end there or neither does. -/
theorem positionAt_end_iff (h : Text.blankOut t = Text.blankOut u) :
    (ofText (t ++ v)).positionAt t.length = (ofText (u ++ w)).positionAt u.length ↔
      (Text.SplitsLineEnd (t ++ v) t.length ↔ Text.SplitsLineEnd (u ++ w) u.length) := by
  have hlen := Text.length_eq_of_blankOut_eq h
  refine ⟨fun heq => ⟨splitsLineEnd_of_positionAt_eq h heq,
    splitsLineEnd_of_positionAt_eq h.symm heq.symm⟩, fun hiff => ?_⟩
  by_cases hs : Text.SplitsLineEnd (t ++ v) t.length
  · have hpos := hs.1
    have hsame : (ofText (t ++ v)).positionAt (u.length - 1) =
        (ofText (u ++ w)).positionAt (u.length - 1) := positionAt_congr h (.inl (by omega))
    rw [(positionAt_of_splitsLineEnd hs).1, (positionAt_of_splitsLineEnd (hiff.1 hs)).1, hlen, hsame]
  · rw [← hlen]
    exact positionAt_congr h (.inr ⟨rfl, hs, fun hu => hs (hiff.2 hu)⟩)

end

end LineIndex

end SingleFile
