import SingleFile.Proofs.Expression.Anchoring
import SingleFile.Proofs.Location.Marks

/-!
# Positions — two ways that agree

The end of a part is located by looking it up among the lines of the
whole text, or by walking over the part from the position of its start.
A token made from a range is located the first way, one made from a mark
the second. They agree wherever the part does not end between the CR and
the LF of one line end (`walk_agrees_iff`); where it begins, and what line
ends it holds or touches, makes no difference.
-/

namespace SingleFile

variable {t : Text} {start stop : Nat}

/-- **A token made from a range** inside the text. -/
theorem Token.ofSource_ofText (h : start ≤ stop) (hstop : stop ≤ t.length) (kind : TokenKind)
    (value : Option Text) :
    Token.ofSource kind t (.ofText t) start stop value =
      .ok ⟨kind, value.getD (t.slice start stop), t.slice start stop, ⟨start, stop, h⟩,
        ⟨(LineIndex.ofText t).positionAt start, (LineIndex.ofText t).positionAt stop⟩⟩ := by
  have hlocation := LineIndex.location_ofText (t := t) (h.trans hstop) hstop
  unfold ofSource
  rw [Range.ofBounds_natCast h, hlocation]
  rfl

/-- **A token made from a mark** whose line and column are those of a position. -/
theorem Token.ofMark_of_position (h : start ≤ stop) (hstop : stop ≤ t.length) (kind : TokenKind)
    (value : Text) (p : Position) :
    Token.ofMark kind value t ⟨start, stop, p.line, p.column + 1⟩ =
      .ok ⟨kind, value, t.slice start stop, ⟨start, stop, h⟩,
        ⟨p, p.advance (t.slice start stop)⟩⟩ := by
  unfold ofMark
  rw [dif_pos ⟨Int.natCast_nonneg start, Int.ofNat_le.2 h, Int.ofNat_le.2 hstop⟩]
  simp only [Int.toNat_natCast, Int.add_sub_cancel]

/-- **Both ways of finding positions agree**, exactly where the part is empty or does not end
between the CR and the LF of one line end. Both ends of a part inside the text have a position;
walking over the part leads from the first to the second; and whatever its kind and its value, the
token made from the mark at the first position is the token made from the range. -/
theorem walk_agrees_iff (h : start ≤ stop) (hstop : stop ≤ t.length) :
    ∃ p q, (LineIndex.ofText t).position start = .ok p ∧
      (LineIndex.ofText t).position stop = .ok q ∧
      (p.advance (t.slice start stop) = q ↔ start = stop ∨ ¬ t.SplitsLineEnd stop) ∧
      ∀ kind value, ∃ token, Token.ofSource kind t (.ofText t) start stop value = .ok token ∧
        (Token.ofMark kind (value.getD (t.slice start stop)) t
            ⟨start, stop, p.line, p.column + 1⟩ = .ok token ↔
          start = stop ∨ ¬ t.SplitsLineEnd stop) := by
  have hwalk := LineIndex.advance_slice_iff h hstop
  refine ⟨_, _, LineIndex.position_ofText (h.trans hstop), LineIndex.position_ofText hstop, hwalk,
    fun kind value => ⟨_, Token.ofSource_ofText h hstop kind value, ?_⟩⟩
  rw [Token.ofMark_of_position h hstop, ← hwalk]
  simp only [Except.ok.injEq, Token.mk.injEq, Location.mk.injEq, true_and]

/-- A text with a CRLF, a line separator and a CR alone. -/
def mixedLines : Text := ['a', '\r', '\n', '\u2028', 'b', '\r', 'c']

/-- From inside its CRLF up to the character behind its CR. -/
theorem walk_agrees_mixed :
    (2 ≤ 6 ∧ 6 ≤ mixedLines.length) ∧
      ∃ p q, (LineIndex.ofText mixedLines).position (2 : Nat) = .ok p ∧
        (LineIndex.ofText mixedLines).position (6 : Nat) = .ok q ∧
        p.advance ['\n', '\u2028', 'b', '\r'] = q ∧
        ∃ token, Token.ofSource .htmlText mixedLines (.ofText mixedLines) (2 : Nat) (6 : Nat) none =
            .ok token ∧
          Token.ofMark .htmlText ['\n', '\u2028', 'b', '\r'] mixedLines
            ⟨2, 6, p.line, p.column + 1⟩ = .ok token := by
  have hbounds : 2 ≤ 6 ∧ 6 ≤ mixedLines.length := ⟨by decide, by decide⟩
  have hends : ¬ mixedLines.SplitsLineEnd 6 := by decide
  obtain ⟨p, q, hp, hq, hwalk, htokens⟩ := walk_agrees_iff hbounds.1 hbounds.2
  obtain ⟨token, hsource, hmark⟩ := htokens .htmlText none
  exact ⟨hbounds, p, q, hp, hq, hwalk.2 (.inr hends), token, hsource, hmark.2 (.inr hends)⟩

/-- Up to the LF of a CRLF the walk is on the next line already. -/
example :
    (LineIndex.ofText ['a', '\r', '\n']).positionAt 2 = ⟨1, 2⟩ ∧
      ((LineIndex.ofText ['a', '\r', '\n']).positionAt 0).advance ['a', '\r'] = ⟨2, 0⟩ := by
  decide

end SingleFile
