import SingleFile.Proofs.Expression.Surrogate
import SingleFile.Proofs.Reference.Slices

/-!
# Expressions — where a rejection points

A script reader that rejects the code says where in the text that it was
handed, and a call returns that error as it was raised: tokens, comments
and nodes are anchored onto the source, the error is not. It points into
the source all the same as long as nothing moves before it, that is, when
decoding changes nothing in the code up to there and what stands there
closes no line end that is open in the source (`rejection_anchored_iff`).
Behind a reference it points too far to the front
(`rejection_not_anchored`).
-/

namespace SingleFile

/-- **An error anchored onto the source**, as a token is: the offset is that of what stands for the
offending character, and the position is the one it has there. -/
@[mk_iff]
structure SyntaxError.AnchoredAs (text : Text) (d : Decoded) (start : Nat) (e e' : SyntaxError) :
    Prop where
  index_eq : e'.index = start + d.rawStart (e.index - start)
  position_eq : (LineIndex.ofText text).position e'.index = .ok e'.position

namespace Template

namespace ExpressionReader

variable {text : Text} {parser : ScriptParser} {reporter : String} {l : Ledger}
variable {start stop : Nat} {surrogate : Text} {e : SyntaxError}

/-- **The code is rejected at one of its characters**: the error is at an offset of the decoded
code, with the position of that offset in the text handed over. -/
structure Rejected (text : Text) (parser : ScriptParser) (reporter : String) (l : Ledger)
    (start stop : Nat) (surrogate : Text) (e : SyntaxError) : Prop where
  admits : (ofText text parser reporter).Admits start stop
  handed : (ofText text parser reporter).surrogate? start stop = some surrogate
  answer : parser l.asked.length surrogate = .error (.syntaxError e)
  inside : start ≤ e.index ∧
    e.index < start + (Decoded.ofText (text.slice start stop)).text.length
  position_eq : (LineIndex.ofText surrogate).position e.index = .ok e.position

/-- **A rejection is returned as it was raised**, whatever its offset. -/
theorem run_of_rejected {r : ExpressionReader} {start stop : Int} (ha : r.Admits start stop)
    (hs : r.surrogate? start stop = some surrogate)
    (hp : r.parser l.asked.length surrogate = .error (.syntaxError e)) :
    (l.run (r.read start stop)).2 = .ok (.error e) := by
  have hverdict : r.verdict l.asked.length surrogate = .ok (.error e) := by
    simp only [verdict, hp]
  have hread := read_of_surrogate (n := l.asked.length) ha hs
  rw [hverdict] at hread
  refine Ledger.run_snd_eq_ok_iff.2 ⟨by rw [hread], ?_⟩
  rw [hread]
  rfl

/-- Every offset of the decoded code is one of the text handed over. -/
theorem le_surrogate (hs : (ofText text parser reporter).surrogate? start stop = some surrogate)
    (hstart : start ≤ text.length) {o : Nat}
    (ho : o ≤ start + (Decoded.ofText (text.slice start stop)).text.length) :
    o ≤ surrogate.length := by
  obtain ⟨lead, hparts, -, hlen, -⟩ := parts_of_surrogate hs hstart
  rw [hparts, List.length_append, List.length_append, hlen]
  omega

/-- **Up to an unchanged front of the code the text handed over is the source**, blanked: so an
offset behind it has one position in both exactly when both divide a line end there, or neither. -/
theorem positionAt_eq_iff_of_front
    (hs : (ofText text parser reporter).surrogate? start stop = some surrogate)
    (hle : start ≤ stop) (hstop : stop ≤ text.length) {i : Nat} (hi : i ≤ stop - start)
    (hfront : (Decoded.ofText (text.slice start stop)).text.take i =
      (text.slice start stop).take i) :
    (LineIndex.ofText surrogate).positionAt (start + i) =
        (LineIndex.ofText text).positionAt (start + i) ↔
      (surrogate.SplitsLineEnd (start + i) ↔ text.SplitsLineEnd (start + i)) := by
  obtain ⟨lead, hparts, -, hlen, hblank⟩ := parts_of_surrogate hs (hle.trans hstop)
  generalize hcode : (Decoded.ofText (text.slice start stop)).text = code at hparts hfront
  have hsurrogate : surrogate = (lead ++ code.take i) ++ (code.drop i ++ wrapperTail code) := by
    rw [hparts, List.append_assoc, ← List.append_assoc (code.take i), List.take_append_drop]
  have hsource : text = (text.take start ++ (text.slice start stop).take i) ++
      ((text.slice start stop).drop i ++ text.drop stop) := by
    rw [List.append_assoc, ← List.append_assoc ((text.slice start stop).take i),
      List.take_append_drop, Text.take_append_slice_append_drop hstop hle]
  have hlead : Text.blankOut (lead ++ code.take i) =
      Text.blankOut (text.take start ++ (text.slice start stop).take i) := by
    rw [Text.blankOut_append, Text.blankOut_append, hblank, hfront]
  have hsize : (lead ++ code.take i).length = start + i := by
    rw [List.length_append, hlen, hfront, List.length_take, Text.length_slice hstop hle]
    omega
  have hend := LineIndex.positionAt_end_iff (v := code.drop i ++ wrapperTail code)
    (w := (text.slice start stop).drop i ++ text.drop stop) hlead
  rw [← hsurrogate, ← hsource, ← Text.length_eq_of_blankOut_eq hlead, hsize] at hend
  exact hend

/-- **A rejection points into the source exactly when nothing moves before it.** The error is
returned as it was raised. At an offset that does not divide what one reference stands for, this
error is anchored when decoding changes nothing in the code up to there, and either both texts
divide a line end there or neither does. -/
theorem rejection_anchored_iff
    (h : Rejected text parser reporter l start stop surrogate e) :
    (l.run ((ofText text parser reporter).read start stop)).2 = .ok (.error e) ∧
      (¬ (Decoded.ofText (text.slice start stop)).Divides (e.index - start) →
        (e.AnchoredAs text (.ofText (text.slice start stop)) start e ↔
          Reference.unescape ((text.slice start stop).take
              ((Decoded.ofText (text.slice start stop)).rawStart (e.index - start))) =
            (text.slice start stop).take
              ((Decoded.ofText (text.slice start stop)).rawStart (e.index - start)) ∧
          (surrogate.SplitsLineEnd e.index ↔ text.SplitsLineEnd e.index))) := by
  obtain ⟨ha, hs, hp, ⟨hge, hlt⟩, hpos⟩ := h
  refine ⟨run_of_rejected ha hs hp, fun hd => ?_⟩
  obtain ⟨-, hle, hstop⟩ : 0 < start ∧ start ≤ stop ∧ stop ≤ text.length := by
    obtain ⟨h1, h2, h3⟩ := ha
    have h3 : (stop : Int) ≤ text.length := h3
    omega
  obtain ⟨i, hindex⟩ : ∃ i, e.index = start + i := ⟨e.index - start, by omega⟩
  rw [hindex] at hlt hpos
  rw [hindex, Nat.add_sub_cancel_left] at hd
  have hi : i < (Decoded.ofText (text.slice start stop)).chars.length := by
    rw [Decoded.length_text] at hlt
    omega
  have hmoved : start + i = start + (Decoded.ofText (text.slice start stop)).rawStart i ↔
      (Decoded.ofText (text.slice start stop)).rawStart i = i := by omega
  rw [SyntaxError.anchoredAs_iff, hindex, Nat.add_sub_cancel_left, hmoved,
    ← Decoded.rawStart_eq_self_iff hi hd]
  refine and_congr_right fun hself => ?_
  -- the code is unchanged up to the character, so both texts begin alike
  have hfront := Decoded.unescape_take_rawStart hi hd
  rw [(Decoded.rawStart_eq_self_iff hi hd).1 hself, hself] at hfront
  have hwithin := Decoded.rawStart_lt_length hi
  rw [hself, Text.length_slice hstop hle] at hwithin
  have hplace : e.position = (LineIndex.ofText surrogate).positionAt (start + i) := by
    have hbound := le_surrogate hs (hle.trans hstop) hlt.le
    rw [LineIndex.position_ofText hbound] at hpos
    exact (Except.ok.inj hpos).symm
  rw [← positionAt_eq_iff_of_front hs hle hstop hwithin.le hfront.symm,
    LineIndex.position_ofText (by omega), hplace, Except.ok.injEq]
  exact eq_comm

/-! ## Two expressions side by side -/

namespace SideBySide

/-- An error on the first line. -/
def error (index : Nat) : SyntaxError := ⟨"Unexpected token", index, ⟨1, index⟩⟩

/-- The reader that rejects everything there. -/
def rejecting (index : Nat) : ScriptParser := fun _ _ => .error (.syntaxError (error index))

/-- A source in which the second expression begins before the reference. -/
def before : Text := "<p>{{a b&#60;c}}</p>".toList

/-- A source in which it begins behind the reference. -/
def behind : Text := "<p>{{a&#60;b c}}</p>".toList

/-- The first one is rejected at the second expression. -/
theorem rejected_before :
    Rejected before (rejecting 7) "" {} 5 14 "    (a b<c)".toList (error 7) where
  admits := ⟨by decide, by decide, by decide⟩
  handed := by decide +kernel
  answer := rfl
  inside := by decide +kernel
  position_eq := rfl

/-- So is the second one. -/
theorem rejected_behind :
    Rejected behind (rejecting 9) "" {} 5 14 "    (a<b c)".toList (error 9) where
  admits := ⟨by decide, by decide, by decide⟩
  handed := by decide +kernel
  answer := rfl
  inside := by decide +kernel
  position_eq := rfl

end SideBySide

/-- Before the reference the error points into the source. -/
theorem rejection_anchored_before :
    (SideBySide.error 7).AnchoredAs SideBySide.before
      (.ofText (SideBySide.before.slice (5 : Nat) (14 : Nat))) 5 (SideBySide.error 7) := by
  have hfront : ¬ (Decoded.ofText (SideBySide.before.slice (5 : Nat) (14 : Nat))).Divides 2 ∧
      (Decoded.ofText (SideBySide.before.slice (5 : Nat) (14 : Nat))).rawStart 2 = 2 := by
    decide +kernel
  refine ((rejection_anchored_iff SideBySide.rejected_before).2 hfront.1).2 ⟨?_, by decide⟩
  rw [show (SideBySide.error 7).index - 5 = 2 from rfl, hfront.2]
  decide +kernel

/-- **Not every rejection points into the source**: behind a reference the error is further to the
front than what was rejected. -/
theorem rejection_not_anchored :
    ¬ ∀ (text : Text) (parser : ScriptParser) (reporter : String) (l : Ledger) (start stop : Nat)
        (surrogate : Text) (e : SyntaxError),
      Rejected text parser reporter l start stop surrogate e →
        ∃ e', (l.run ((ofText text parser reporter).read start stop)).2 = .ok (.error e') ∧
          e.AnchoredAs text (.ofText (text.slice start stop)) start e' := by
  intro h
  have hrejected := SideBySide.rejected_behind
  obtain ⟨e', hrun, hanchored⟩ := h _ _ _ _ _ _ _ _ hrejected
  rw [run_of_rejected hrejected.admits hrejected.handed hrejected.answer] at hrun
  obtain rfl : SideBySide.error 9 = e' := Except.error.inj (Except.ok.inj hrun)
  have hindex := hanchored.index_eq
  have hsource : (Decoded.ofText (SideBySide.behind.slice (5 : Nat) (14 : Nat))).rawStart 4 = 8 := by
    decide +kernel
  rw [show (SideBySide.error 9).index - 5 = 4 from rfl, hsource] at hindex
  exact absurd hindex (by decide)

end ExpressionReader

end Template

end SingleFile
