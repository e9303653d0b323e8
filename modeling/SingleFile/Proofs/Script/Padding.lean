import SingleFile.Proofs.Location.Marks
import SingleFile.Script.Block

/-!
# The script block — what its padding reproduces

A mark that the lines of a source were consulted for says at which offset
and on which line the code of the script begins. The padding made of it
is as long as the source before the code and ends as many lines
(`padded_eq`), so an offset in the code comes out on its line in the
source. Its column is counted from the last line feed of the padding,
which stands right before the code.
-/

namespace SingleFile

namespace Script

variable {source : Text} {element : Markup.Element} {code : Mark} {rest : List Markup.Entry}
  {first last : Nat}

/-- The padding in front of code at an offset, after a number of line ends. -/
def padding (offset lines : Nat) : Text :=
  List.replicate (offset - lines) ' ' ++ List.replicate lines '\n'

/-- It is as long as what it stands for. -/
theorem length_padding {offset lines : Nat} (h : lines ≤ offset) :
    (padding offset lines).length = offset := by
  unfold padding
  rw [List.length_append, List.length_replicate, List.length_replicate]
  omega

/-- It ends with no CR. -/
theorem padding_ends (offset lines : Nat) (t : Text) :
    ¬ Text.SplitsLineEnd (padding offset lines ++ t) (padding offset lines).length := by
  rintro ⟨hpos, hcr, -⟩
  rw [List.getElem?_append_left (by omega)] at hcr
  have hmem := List.mem_of_getElem? hcr
  unfold padding at hmem
  rcases List.mem_append.1 hmem with hspace | hfeed
  · exact absurd (List.eq_of_mem_replicate hspace) (by decide)
  · exact absurd (List.eq_of_mem_replicate hfeed) (by decide)

/-- Its lines begin where its line feeds end. -/
theorem lineHeads_padding (offset lines : Nat) :
    (padding offset lines).lineHeads 0 = List.range' (offset - lines + 1) lines := by
  unfold padding
  have hends : ¬ Text.SplitsLineEnd
      (List.replicate (offset - lines) ' ' ++ List.replicate lines '\n')
      (List.replicate (offset - lines) ' ').length := by
    rintro ⟨hpos, hcr, -⟩
    rw [List.getElem?_append_left (by omega)] at hcr
    exact absurd (List.eq_of_mem_replicate (List.mem_of_getElem? hcr)) (by decide)
  rw [Text.lineHeads_append hends, Text.lineHeads_replicate_space,
    Text.lineHeads_replicate_lineFeed, List.length_replicate, List.nil_append, Nat.zero_add]

/-- The last of them begins at the code, unless there is none. -/
theorem getLastD_lineHeads_padding {offset lines : Nat} (h : lines ≤ offset) :
    ((padding offset lines).lineHeads 0).getLastD 0 = if lines = 0 then 0 else offset := by
  rw [lineHeads_padding]
  cases lines with
  | zero => rfl
  | succ n =>
    rw [List.range'_concat, List.getLastD_concat, if_neg (Nat.succ_ne_zero n)]
    omega

/-- The lines before an offset are no more than its characters. -/
theorem lines_le_offset (source : Text) (offset : Nat) :
    ((source.lineHeads 0).takeWhile (· ≤ offset)).length ≤ offset := by
  have hle := Text.length_takeWhile_lineHeads_le (k := 0) (t := source) offset
  rwa [Nat.zero_add] at hle

/-! ## The text handed over -/

/-- It depends on the children of the element only. -/
theorem padded_congr {e e' : Markup.Element} (h : e.children = e'.children) :
    padded source (some e) = padded source (some e') := by
  unfold padded
  rw [Option.map_some, Option.map_some, h]

/-- No text is handed over for an element that does not begin with a run of text. -/
theorem padded_of_no_text {e : Markup.Element} (h : ∀ m, e.children.head? ≠ some (.text m)) :
    padded source (some e) = [] := by
  unfold padded
  rw [Option.map_some]
  split
  · rename_i m rest heq
    rw [Option.some.injEq] at heq
    exact absurd (by rw [heq]; rfl) (h m)
  · rfl

/-- **The text handed over is the padding and the code.** -/
theorem padded_eq (hchildren : element.children = .text code :: rest)
    (hcode : code.PlacedIn source first last) :
    padded source (some element) =
      padding first ((source.lineHeads 0).takeWhile (· ≤ first)).length ++
        source.slice first last := by
  have hle := lines_le_offset source first
  have hline := hcode.line_eq
  simp only [LineIndex.positionAt, LineIndex.ofText] at hline
  unfold padded padding
  simp only [Option.map_some, hchildren, hcode.of_eq, hcode.start_eq, hline]
  congr 3 <;> omega

/-- It ends where the code ends. -/
theorem length_padded (hchildren : element.children = .text code :: rest)
    (hcode : code.PlacedIn source first last) : (padded source (some element)).length = last := by
  rw [padded_eq hchildren hcode, List.length_append, length_padding (lines_le_offset source first),
    Text.length_slice hcode.stop_le hcode.start_le_stop]
  have := hcode.start_le_stop
  omega

end Script

end SingleFile
