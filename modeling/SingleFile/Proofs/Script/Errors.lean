import SingleFile.Proofs.Script.Conversion

/-!
# Script programs — the error that is reported

The search for an erroneous node goes only below children that are
flagged. When the flags of a tree are sound (`FlagsSound`) nothing is
missed that way, and what is found is the first erroneous node of the
walk (`firstError?_eq_find?`). So a text is rejected exactly when its tree
has an erroneous node, and the error points to where the first of them
starts (`parser_rejects_first`).
-/

namespace SingleFile

namespace Script

/-- A node stands for an error: what is below it cannot be read, or it is missing itself. -/
def isErroneous (c : Cst) : Bool := decide (c.kind = errorKind ∨ c.isMissing = true)

/-- **Sound flags**: a node is flagged exactly when it or a node below it is erroneous. -/
def FlagsSound (root : Cst) : Prop :=
  ∀ c ∈ root.walk, c.hasError = true ↔ ∃ d ∈ c.walk, isErroneous d = true

instance (root : Cst) : Decidable (FlagsSound root) := by
  unfold FlagsSound
  infer_instance

/-- The flags below a child are sound as well. -/
theorem FlagsSound.child {root c : Cst} (h : FlagsSound root) (hc : c ∈ root.children) :
    FlagsSound c :=
  fun d hd => h d (Cst.mem_walk_of_mem_child hc hd)

/-! ## The search -/

/-- **Below a child that is not flagged** there is nothing to find. -/
theorem find?_eq_none_of_not_flagged {c : Cst} (h : FlagsSound c)
    (hc : ¬ (c.hasError = true ∨ c.isMissing = true ∨ c.kind = errorKind)) :
    c.walk.find? isErroneous = none := by
  rw [List.find?_eq_none]
  intro d hd herroneous
  exact hc (.inl ((h c c.mem_walk_self).2 ⟨d, hd, herroneous⟩))

mutual
/-- **The search finds the first erroneous node** of the walk. -/
theorem firstError?_eq_find? : ∀ {c : Cst}, FlagsSound c →
    firstError? c = c.walk.find? isErroneous
  | ⟨kind, startByte, stopByte, isNamed, isMissing, hasError, children⟩, h => by
    rw [firstError?, Cst.walk, List.find?_cons]
    by_cases hroot : kind = errorKind ∨ isMissing = true
    · rw [if_pos hroot, isErroneous, decide_eq_true hroot]
    · rw [if_neg hroot, isErroneous, decide_eq_false hroot]
      exact firstErrorOf?_eq_find? fun d hd => h.child hd

/-- And of the walks of several nodes. -/
theorem firstErrorOf?_eq_find? : ∀ {cs : List Cst}, (∀ c ∈ cs, FlagsSound c) →
    firstErrorOf? cs = (Cst.walkAll cs).find? isErroneous
  | [], _ => rfl
  | c :: cs, h => by
    have hfirst := h c List.mem_cons_self
    have hrest := firstErrorOf?_eq_find? fun d hd => h d (List.mem_cons_of_mem c hd)
    rw [firstErrorOf?, Cst.walkAll, List.find?_append, hrest]
    by_cases hflag : c.hasError = true ∨ c.isMissing = true ∨ c.kind = errorKind
    · rw [if_pos hflag, firstError?_eq_find? hfirst]
      cases c.walk.find? isErroneous <;> rfl
    · rw [if_neg hflag, find?_eq_none_of_not_flagged hfirst hflag]
      rfl
end

/-! ## The report -/

/-- **What an error reports of a node**: the offset of the character where the node starts, which is
the number of characters that end at or before its first byte, and the position of this offset. -/
structure ReportedAt (t : Text) (c : Cst) (e : SyntaxError) : Prop where
  index_le : e.index ≤ t.length
  le_index_iff : ∀ i, 0 < i → i ≤ t.length →
    (i ≤ e.index ↔ (Text.bytesBefore (cleaned t) i : Int) ≤ c.startByte)
  position_eq : (LineIndex.ofText t).position e.index = .ok e.position

section

variable {t : Text} {root : Cst}

/-- There is always an error to report, at the node that the search finds. -/
theorem exists_syntaxError {c : Cst} (h : firstError? root = some c) :
    ∃ e, syntaxError t (.ofText t) (.ofText (cleaned t)) root = .ok e ∧ ReportedAt t c e := by
  have hle : (ByteOffsets.ofText (cleaned t)).charIndex c.startByte ≤ t.length := by
    rw [← length_cleaned t]
    exact ByteOffsets.charIndex_le _ _
  have hposition := LineIndex.position_ofText hle
  unfold syntaxError
  simp only [h, Option.getD_some, hposition]
  refine ⟨_, rfl, hle, fun i hi hlen => ?_, hposition⟩
  exact ByteOffsets.le_charIndex_iff hi (by rwa [length_cleaned]) _

/-- A tree that is not flagged is not rejected, whatever else may go wrong. -/
theorem ofTree_ne_syntaxError (h : root.hasError = false) (e : SyntaxError) :
    ofTree t root ≠ .error (.syntaxError e) := by
  intro herror
  unfold ofTree at herror
  simp only [h, Bool.false_eq_true, if_false] at herror
  -- each of the three steps that follow can only breach
  cases htokens : tokensOf t (.ofText t) (.ofText (cleaned t)) (leaves root) with
  | error b =>
    rw [htokens] at herror
    cases herror
  | ok found =>
    cases hbody : nodesOf t (.ofText t) (.ofText (cleaned t)) root.children with
    | error b =>
      rw [htokens, hbody] at herror
      cases herror
    | ok body =>
      have hrange : Range.ofBounds 0 t.length = .ok ⟨0, t.length, Nat.zero_le _⟩ :=
        Range.ofBounds_natCast (Nat.zero_le _)
      rw [htokens, hbody, hrange] at herror
      cases herror

variable {grammars : Grammars} {language : Text} {asked : Nat}

/-- **The error that is reported is the first one.** When the flags of the tree that a text is read
as are sound, the text is rejected exactly when some node of the tree is erroneous; and the error
then points to where the first such node of the walk starts. -/
theorem parser_rejects_first (htree : grammars language asked (cleaned t) = .ok root)
    (hsound : FlagsSound root) :
    ((∃ e, parser grammars language asked t = .error (.syntaxError e)) ↔
      ∃ c ∈ root.walk, isErroneous c = true) ∧
    ∀ e, parser grammars language asked t = .error (.syntaxError e) →
      ∃ c, root.walk.find? isErroneous = some c ∧ ReportedAt t c e := by
  have hparser : parser grammars language asked t = ofTree t root := by
    unfold parser
    rw [htree]
  have hflag := hsound root root.mem_walk_self
  rw [hparser, ← hflag]
  cases herror : root.hasError with
  | false =>
    have hnone := ofTree_ne_syntaxError (t := t) herror
    exact ⟨iff_of_false (fun ⟨e, he⟩ => hnone e he) (by decide), fun e he => absurd he (hnone e)⟩
  | true =>
    obtain ⟨d, hd, herroneous⟩ := hflag.1 herror
    obtain ⟨c, hc⟩ := Option.isSome_iff_exists.1 (List.find?_isSome.2 ⟨d, hd, herroneous⟩)
    obtain ⟨e, he, hreported⟩ :=
      exists_syntaxError (t := t) ((firstError?_eq_find? hsound).trans hc)
    have hrejected : ofTree t root = .error (.syntaxError e) := by
      unfold ofTree
      simp only [herror, if_true, he]
      rfl
    refine ⟨iff_of_true ⟨e, hrejected⟩ rfl, fun e' he' => ?_⟩
    rw [hrejected] at he'
    cases he'
    exact ⟨c, hc, hreported⟩

end

/-! ## A bracket that is not closed -/

namespace Unclosed

/-- A name and an opened bracket on the next line. -/
def text : Text := ['é', '\u2028', '(', 'a']

/-- Its tree: the closing bracket is missing behind the last name, and there is another error behind
the place where it should stand. -/
def root : Cst :=
  ⟨"program", 0, 5, true, false, true,
    [⟨"identifier", 0, 2, true, false, false, []⟩,
      ⟨"arguments", 3, 5, true, false, true,
        [⟨"(", 3, 4, false, false, false, []⟩, ⟨"identifier", 4, 5, true, false, false, []⟩,
          ⟨")", 5, 5, false, true, true, []⟩]⟩,
      ⟨"ERROR", 5, 5, true, false, true, []⟩]⟩

/-- The grammar that gives this tree to everything. -/
def grammars : Grammars := fun _ _ _ => .ok root

end Unclosed

/-- The bracket is reported, in the last column of the second line. -/
theorem parser_rejects_first_unclosed :
    (Unclosed.grammars [] 0 (cleaned Unclosed.text) = .ok Unclosed.root ∧
      FlagsSound Unclosed.root) ∧
      ∃ e, parser Unclosed.grammars [] 0 Unclosed.text = .error (.syntaxError e) ∧
        e.index = 4 ∧ e.position = ⟨2, 2⟩ := by
  have htree : Unclosed.grammars [] 0 (cleaned Unclosed.text) = .ok Unclosed.root := rfl
  have hsound : FlagsSound Unclosed.root := by decide
  obtain ⟨hiff, hfirst⟩ := parser_rejects_first htree hsound
  obtain ⟨e, he⟩ := hiff.2 (by decide)
  obtain ⟨c, hc, hreported⟩ := hfirst e he
  have hmissing : (Unclosed.root.walk.find? isErroneous).map (·.startByte) = some 5 := by decide
  rw [hc] at hmissing
  have hstart : c.startByte = 5 := Option.some.inj hmissing
  have hindex : e.index = 4 := by
    refine Nat.le_antisymm hreported.index_le ((hreported.le_index_iff 4 (by decide) le_rfl).2 ?_)
    rw [hstart]
    decide +kernel
  have hposition := hreported.position_eq
  rw [hindex] at hposition
  exact ⟨⟨htree, hsound⟩, e, he, hindex, (Except.ok.inj hposition).symm⟩

end Script

end SingleFile
