import SingleFile.Markup.Tree
import SingleFile.Proofs.Location.Lines

/-!
# Marks — in place in a source

A mark brings the line and the column of its start along. It is in place
when they are those of the source, as the marks of a markup tree are
(`placedIn_mark`). A token made from such a mark is located as if its
place had been looked up (`ofMark_of_placedIn`).
-/

namespace SingleFile

/-- What a token between two offsets of a text is. -/
structure Token.IsPart (t : Token) (text : Text) (start stop : Int) : Prop where
  start_eq : (t.range.start : Int) = start
  stop_eq : (t.range.stop : Int) = stop
  raw_eq : t.raw = t.range.of text

/-- A token made from a mark is the part that it covers. -/
theorem Token.isPart_of_ofMark {kind : TokenKind} {value source : Text} {m : Mark} {t : Token}
    (h : Token.ofMark kind value source m = .ok t) : t.IsPart source m.start m.stop := by
  unfold Token.ofMark at h
  split at h
  · rename_i hm
    obtain ⟨h1, h2, h3⟩ := hm
    cases h
    refine ⟨Int.toNat_of_nonneg h1, Int.toNat_of_nonneg (by omega), ?_⟩
    unfold Range.of
    dsimp only
    rw [Int.toNat_of_nonneg h1, Int.toNat_of_nonneg (by omega)]
  · cases h

/-- A mark says where the part from `start` to `stop` of a source stands. -/
structure Mark.PlacedIn (m : Mark) (source : Text) (start stop : Nat) : Prop where
  start_eq : m.start = start
  stop_eq : m.stop = stop
  start_le_stop : start ≤ stop
  stop_le : stop ≤ source.length
  line_eq : m.line = ((LineIndex.ofText source).positionAt start).line
  column_eq : m.column = ((LineIndex.ofText source).positionAt start).column + 1

variable {source : Text} {m : Mark} {start stop : Nat}

/-- A mark in place is determined by the offsets. -/
theorem Mark.PlacedIn.eq (h : m.PlacedIn source start stop) :
    m = ⟨start, stop, ((LineIndex.ofText source).positionAt start).line,
      ((LineIndex.ofText source).positionAt start).column + 1⟩ := by
  rw [← h.start_eq, ← h.stop_eq, ← h.line_eq, ← h.column_eq]

/-- What a mark in place covers. -/
theorem Mark.PlacedIn.of_eq (h : m.PlacedIn source start stop) :
    m.of source = source.slice start stop := by
  unfold Mark.of
  rw [h.start_eq, h.stop_eq]

/-- **A token made from a mark in place is located by the lines of the source**,
unless an end of the mark divides a line end. -/
theorem Token.ofMark_of_placedIn (h : m.PlacedIn source start stop) (kind : TokenKind)
    (value : Text) (hstart : ¬ source.SplitsLineEnd start) (hstop : ¬ source.SplitsLineEnd stop) :
    Token.ofMark kind value source m =
      .ok ⟨kind, value, source.slice start stop, ⟨start, stop, h.start_le_stop⟩,
        ⟨(LineIndex.ofText source).positionAt start, (LineIndex.ofText source).positionAt stop⟩⟩ := by
  have hle := h.start_le_stop
  have hlen := h.stop_le
  have hwalk := LineIndex.advance_slice hle hlen hstart hstop
  obtain rfl := h.eq
  unfold Token.ofMark
  rw [dif_pos ⟨Int.natCast_nonneg start, Int.ofNat_le.2 hle, Int.ofNat_le.2 hlen⟩]
  simp only [Int.toNat_natCast, Int.add_sub_cancel, hwalk]

/-- **The marks of a markup tree are in place.** -/
theorem Markup.Source.placedIn_mark (tags : List Text) (h : start ≤ stop)
    (hstop : stop ≤ source.length) :
    ((Markup.Source.ofText source tags).mark start stop).PlacedIn source start stop :=
  ⟨rfl, rfl, h, hstop, rfl, rfl⟩

end SingleFile
