import SingleFile.Text
import SingleFile.Text.CaseTable

/-!
# Upper and lower case

The full case mappings of a text: a character may map to several, and a
capital sigma becomes a final sigma when a cased character comes before
it and none after it, looking past ignorable characters.
-/

namespace SingleFile

namespace Text

/-- Where a run of mappings takes a code point that it covers. -/
def CaseRun.image? (run : CaseRun) (code : Nat) : Option Nat :=
  if run.first ≤ code ∧ code ≤ run.last ∧ (code - run.first) % run.stride = 0 then
    some (code + run.distance).toNat
  else none

/-- The image of one character: its expansion, else its run, else itself. -/
def mapCase (runs : List CaseRun) (expansions : List (Nat × List Nat)) (c : Char) : Text :=
  match expansions.lookup c.toNat with
  | some codes => codes.map Char.ofNat
  | none =>
    match runs.findSome? (·.image? c.toNat) with
    | some code => [Char.ofNat code]
    | none => [c]

/-- Whether the nearest character that is not ignored is cased. -/
def nextIsCased (t : Text) : Bool :=
  match t.dropWhile (inRanges ignorableRanges) with
  | [] => false
  | c :: _ => inRanges casedRanges c

/-- The lower case of a text whose preceding characters are `before`, the
nearest first. -/
def lowerAfter (before : Text) : Text → Text
  | [] => []
  | c :: t =>
    let image :=
      if c.toNat = 0x3a3 then
        if nextIsCased before && !nextIsCased t then [Char.ofNat 0x3c2] else [Char.ofNat 0x3c3]
      else mapCase lowerRuns lowerExpansions c
    image ++ lowerAfter (c :: before) t

/-- The text in lower case. -/
def lower (t : Text) : Text := lowerAfter [] t

/-- The text in upper case. -/
def upper (t : Text) : Text := t.flatMap (mapCase upperRuns upperExpansions)

end Text

end SingleFile
