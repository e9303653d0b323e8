import SingleFile.Proofs.Emission
import SingleFile.Proofs.Expression.Anchoring
import SingleFile.Proofs.Script.Padding
import SingleFile.Proofs.Span
import SingleFile.Script.Tree

/-!
# The script block — where its parts are said to stand

A script reader looks the places of what it reports up in the text that it
is handed over, and for the script block of a component that text is
padding and code. Offsets and lines of what stands in the code are those
of the source. Columns are on the first line of the source, on every line
that begins in the code, and where the code itself begins a line; behind
a start tag further down the first line of the code is counted from the
start of the code instead (`block_inPlace_iff`). The tokens of the tags
are located by their marks and are not affected.
-/

namespace SingleFile

/-! ## What a program says of places -/

/-- A range and where it is said to stand. -/
structure Spot where
  range : Range
  location : Location
  deriving DecidableEq, Repr

/-- Where a token is said to stand. -/
def Token.spot (t : Token) : Spot := ⟨t.range, t.location⟩

/-- Where a node is said to stand. -/
def ScriptNode.spot (node : ScriptNode) : Spot := ⟨node.range, node.location⟩

/-- Everything that a program says of places: of its tokens, its comments and
all nodes of its body. -/
def Program.spots (p : Program) : List Spot :=
  p.tokens.map Token.spot ++ p.comments.map Token.spot ++
    (ScriptNode.walkAll p.body).map ScriptNode.spot

namespace Spot

/-- The location is the one that the lines of a text give to the range. -/
def InPlace (x : Spot) (t : Text) : Prop :=
  (LineIndex.ofText t).location x.range.start x.range.stop = .ok x.location

/-- Its lines are those that the text gives to the range. -/
def OnLines (x : Spot) (t : Text) : Prop :=
  ∃ l, (LineIndex.ofText t).location x.range.start x.range.stop = .ok l ∧
    l.start.line = x.location.start.line ∧ l.stop.line = x.location.stop.line

/-- A range inside the text is located at the positions of its ends. -/
theorem inPlace_iff {x : Spot} {t : Text} :
    x.InPlace t ↔ x.range.stop ≤ t.length ∧
      x.location = ⟨(LineIndex.ofText t).positionAt x.range.start,
        (LineIndex.ofText t).positionAt x.range.stop⟩ := by
  unfold InPlace
  rw [LineIndex.location_ofText_eq_ok_iff]
  have := x.range.start_le_stop
  exact ⟨fun h => h.2, fun h => ⟨by omega, h⟩⟩

end Spot

/-- A reader locates everything it reports by the lines of the text that it is
handed over. -/
def ScriptParser.Locates (parser : ScriptParser) : Prop :=
  ∀ asked text program, parser asked text = .ok program → ∀ x ∈ program.spots, x.InPlace text

/-! ## Programs from concrete trees -/

/-- A token made from a part of a text is in place there. -/
theorem Token.inPlace_of_ofSource {kind : TokenKind} {t : Text} {start stop : Int}
    {value : Option Text} {token : Token}
    (h : Token.ofSource kind t (.ofText t) start stop value = .ok token) :
    token.spot.InPlace t := by
  obtain ⟨range, hrange, h⟩ := except_bind_eq_ok_iff.1 h
  obtain ⟨location, hlocation, h⟩ := except_bind_eq_ok_iff.1 h
  cases h
  obtain ⟨rfl, rfl⟩ := Range.ofBounds_eq_ok_iff.1 hrange
  exact hlocation

namespace Script

variable {t : Text} {offsets : ByteOffsets}

/-- What the first of several leaves becomes: nothing when it is empty, else a
comment or a token. -/
theorem tokensOf_cons_eq_ok {index : LineIndex} {leaf : Cst} {rest : List Cst}
    {tokens comments : List Token}
    (h : tokensOf t index offsets (leaf :: rest) = .ok (tokens, comments)) :
    tokensOf t index offsets rest = .ok (tokens, comments) ∨
    (∃ kind value comment others,
      Token.ofSource kind t index (offsets.span leaf).1 (offsets.span leaf).2 value = .ok comment ∧
      tokensOf t index offsets rest = .ok (tokens, others) ∧ comments = comment :: others) ∨
    ∃ kind token others,
      Token.ofSource kind t index (offsets.span leaf).1 (offsets.span leaf).2 none = .ok token ∧
      tokensOf t index offsets rest = .ok (others, comments) ∧ tokens = token :: others := by
  rw [tokensOf] at h
  split at h
  rename_i start stop hspan
  rw [hspan]
  split at h
  · exact .inl h
  · split at h
    · obtain ⟨comment, hcomment, h⟩ := except_bind_eq_ok_iff.1 h
      obtain ⟨⟨ts, cs⟩, hrest, h⟩ := except_bind_eq_ok_iff.1 h
      cases h
      exact .inr (.inl ⟨_, _, comment, cs, hcomment, hrest, rfl⟩)
    · obtain ⟨token, htoken, h⟩ := except_bind_eq_ok_iff.1 h
      obtain ⟨⟨ts, cs⟩, hrest, h⟩ := except_bind_eq_ok_iff.1 h
      cases h
      exact .inr (.inr ⟨_, token, ts, htoken, hrest, rfl⟩)

/-- So are all tokens and comments that leaves become. -/
theorem inPlace_of_tokensOf {cs : List Cst} {tokens comments : List Token}
    (h : tokensOf t (.ofText t) offsets cs = .ok (tokens, comments)) :
    (∀ x ∈ tokens, x.spot.InPlace t) ∧ ∀ x ∈ comments, x.spot.InPlace t := by
  induction cs generalizing tokens comments with
  | nil =>
    cases h
    exact ⟨List.forall_mem_nil _, List.forall_mem_nil _⟩
  | cons leaf rest ih =>
    rcases tokensOf_cons_eq_ok h with
      hrest | ⟨_, _, comment, others, hcomment, hrest, rfl⟩ | ⟨_, token, others, htoken, hrest, rfl⟩
    · exact ih hrest
    · obtain ⟨htokens, hothers⟩ := ih hrest
      exact ⟨htokens, List.forall_mem_cons.2 ⟨Token.inPlace_of_ofSource hcomment, hothers⟩⟩
    · obtain ⟨hothers, hcomments⟩ := ih hrest
      exact ⟨List.forall_mem_cons.2 ⟨Token.inPlace_of_ofSource htoken, hothers⟩, hcomments⟩

/-- What a tree node becomes: its parts, unless it is kept whole, and its place. -/
theorem nodeOf_eq_ok {index : LineIndex} {c : Cst} {node : ScriptNode}
    (h : nodeOf t index offsets c = .ok node) :
    ∃ parts range location,
      (parts = [] ∨ nodesOf t index offsets c.children = .ok parts) ∧
      Range.ofBounds (offsets.charIndex c.startByte) (offsets.charIndex c.stopByte) = .ok range ∧
      index.location (offsets.charIndex c.startByte) (offsets.charIndex c.stopByte) =
        .ok location ∧
      node = ⟨c.kind, range, location,
        t.slice (offsets.charIndex c.startByte) (offsets.charIndex c.stopByte), parts⟩ := by
  obtain ⟨kind, startByte, stopByte, isNamed, isMissing, hasError, children⟩ := c
  rw [nodeOf] at h
  split at h
  · obtain ⟨parts, hparts, h⟩ := except_bind_eq_ok_iff.1 h
    obtain ⟨range, hrange, h⟩ := except_bind_eq_ok_iff.1 h
    obtain ⟨location, hlocation, h⟩ := except_bind_eq_ok_iff.1 h
    cases hparts
    cases h
    exact ⟨[], range, location, .inl rfl, hrange, hlocation, rfl⟩
  · obtain ⟨parts, hparts, h⟩ := except_bind_eq_ok_iff.1 h
    obtain ⟨range, hrange, h⟩ := except_bind_eq_ok_iff.1 h
    obtain ⟨location, hlocation, h⟩ := except_bind_eq_ok_iff.1 h
    cases h
    exact ⟨parts, range, location, .inr hparts, hrange, hlocation, rfl⟩

mutual
/-- So is the node of a tree node, with everything below it. -/
theorem inPlace_of_nodeOf {c : Cst} {node : ScriptNode}
    (h : nodeOf t (.ofText t) offsets c = .ok node) : ∀ x ∈ node.walk, x.spot.InPlace t := by
  obtain ⟨kind, startByte, stopByte, isNamed, isMissing, hasError, children⟩ := c
  obtain ⟨parts, range, location, hparts, hrange, hlocation, rfl⟩ := nodeOf_eq_ok h
  obtain ⟨hstart, hstop⟩ := Range.ofBounds_eq_ok_iff.1 hrange
  rw [hstart, hstop] at hlocation
  intro x hx
  rw [ScriptNode.walk] at hx
  rcases List.mem_cons.1 hx with rfl | hx
  · exact hlocation
  · rcases hparts with rfl | hparts
    · cases hx
    · exact inPlace_of_nodesOf hparts x hx

/-- And so are the nodes of a list. -/
theorem inPlace_of_nodesOf {cs : List Cst} {nodes : List ScriptNode}
    (h : nodesOf t (.ofText t) offsets cs = .ok nodes) :
    ∀ x ∈ ScriptNode.walkAll nodes, x.spot.InPlace t := by
  cases cs with
  | nil =>
    cases h
    intro x hx
    cases hx
  | cons c cs =>
    rw [nodesOf] at h
    split at h
    · obtain ⟨node, hnode, h⟩ := except_bind_eq_ok_iff.1 h
      obtain ⟨rest, hrest, h⟩ := except_bind_eq_ok_iff.1 h
      cases h
      intro x hx
      rw [ScriptNode.walkAll] at hx
      rcases List.mem_append.1 hx with hx | hx
      · exact inPlace_of_nodeOf hnode x hx
      · exact inPlace_of_nodesOf hrest x hx
    · exact inPlace_of_nodesOf h
end

/-- **A program from a concrete tree is in place** in the text of the tree. -/
theorem locates_of_grammars (grammars : Grammars) (language : Text) :
    (parser grammars language).Locates := by
  intro asked text program h
  unfold parser at h
  split at h
  · rename_i root _
    unfold ofTree at h
    split at h
    · obtain ⟨e, he, h⟩ := except_bind_eq_ok_iff.1 h
      cases h
    · obtain ⟨⟨tokens, comments⟩, htokens, h⟩ := except_bind_eq_ok_iff.1 h
      obtain ⟨body, hbody, h⟩ := except_bind_eq_ok_iff.1 h
      obtain ⟨range, hrange, h⟩ := except_bind_eq_ok_iff.1 h
      cases h
      obtain ⟨htokens, hcomments⟩ := inPlace_of_tokensOf (Failure.ofBreach_eq_ok_iff.1 htokens)
      have hnodes := inPlace_of_nodesOf (Failure.ofBreach_eq_ok_iff.1 hbody)
      intro x hx
      simp only [Program.spots, List.mem_append, List.mem_map] at hx
      rcases hx with (⟨token, htoken, rfl⟩ | ⟨comment, hcomment, rfl⟩) | ⟨node, hnode, rfl⟩
      · exact htokens token htoken
      · exact hcomments comment hcomment
      · exact hnodes node hnode
  · cases h
  · cases h

/-! ## The block -/

/-- A script element in place: its start tag reaches from `start` to `first`, its
end tag from `last` to `stop`, and the text between them is its only child. -/
structure BlockAt (source : Text) (element : Markup.Element) (start first last stop : Nat) :
    Prop where
  code : ∃ m, element.children = [.text m] ∧ m.PlacedIn source first last
  startTag : ∃ m, element.mark.startTag = some m ∧ m.PlacedIn source start first
  endTag : ∃ m, element.mark.endTag = some m ∧ m.PlacedIn source last stop
  opens : source[start]? = some '<' ∧ source[first - 1]? = some '>'
  closes : source[last]? = some '<' ∧ source[stop - 1]? = some '>'

section

variable {source : Text} {element : Markup.Element} {start first last stop : Nat}

/-- **The program of a block** is the one that the reader returns, with a token in
place around its own for each tag. -/
theorem exists_block (hb : BlockAt source element start first last stop) {parser : ScriptParser}
    {asked : Nat} {inner : Program}
    (h : parser asked (padded source (some element)) = .ok inner) :
    ∃ program opening closing, block source (some element) parser asked = .ok program ∧
      program.body = inner.body ∧ program.comments = inner.comments ∧
      program.tokens = opening :: inner.tokens ++ [closing] ∧
      (opening.spot.InPlace source ∧ opening.range.span = (start, first)) ∧
      closing.spot.InPlace source ∧ closing.range.span = (last, stop) := by
  obtain ⟨m, hm, hopening⟩ := hb.startTag
  obtain ⟨m', hm', hclosing⟩ := hb.endTag
  have htoken := Token.ofMark_of_placedIn hopening .punctuator "<script>".toList
    (Text.not_splitsLineEnd_of_after hb.opens.1 (by decide))
    (Text.not_splitsLineEnd_of_before hb.opens.2 (by decide))
  have htoken' := Token.ofMark_of_placedIn hclosing .punctuator "</script>".toList
    (Text.not_splitsLineEnd_of_after hb.closes.1 (by decide))
    (Text.not_splitsLineEnd_of_before hb.closes.2 (by decide))
  unfold block withTags tagToken
  simp only [h, hm, hm', htoken, htoken', bind, Except.bind, pure, Except.pure,
    Failure.ofBreach_ok]
  exact ⟨_, _, _, rfl, rfl, rfl, rfl,
    ⟨Spot.inPlace_iff.2 ⟨hopening.stop_le, rfl⟩, rfl⟩,
    Spot.inPlace_iff.2 ⟨hclosing.stop_le, rfl⟩, rfl⟩

/-- No line end is divided where the code begins or ends. -/
theorem BlockAt.not_splitsLineEnd (hb : BlockAt source element start first last stop) :
    ¬ source.SplitsLineEnd first ∧ ¬ source.SplitsLineEnd last :=
  ⟨Text.not_splitsLineEnd_of_before hb.opens.2 (by decide),
    Text.not_splitsLineEnd_of_after hb.closes.1 (by decide)⟩

/-- **The position of the code in the text handed over**: on its line, in the
column that it has on the first line and in none further down. -/
theorem positionAt_padded_first (hb : BlockAt source element start first last stop) :
    (LineIndex.ofText (padded source (some element))).positionAt first =
      ⟨((LineIndex.ofText source).positionAt first).line,
        if ((LineIndex.ofText source).positionAt first).line = 1 then first else 0⟩ := by
  obtain ⟨m, hm, hcode⟩ := hb.code
  have hle := lines_le_offset source first
  rw [padded_eq hm hcode]
  generalize hlines : ((source.lineHeads 0).takeWhile (· ≤ first)).length = lines at hle ⊢
  have hends := padding_ends first lines (source.slice first last ++ [])
  have hall : ¬ Text.SplitsLineEnd (padding first lines ++ (source.slice first last ++ []))
      ((padding first lines).length + (source.slice first last).length) := by
    rintro ⟨-, -, hlf⟩
    rw [List.append_nil, List.getElem?_eq_none (by rw [List.length_append])] at hlf
    cases hlf
  have hposition := LineIndex.positionAt_of_parts hends hall
    (o := (padding first lines).length) (Nat.le_refl _) (by omega)
  rw [Text.takeWhile_lineHeads_eq_nil (Nat.le_refl _), List.append_nil, length_padding hle,
    getLastD_lineHeads_padding hle, lineHeads_padding] at hposition
  rw [hposition]
  simp only [LineIndex.positionAt, LineIndex.ofText, hlines, List.length_range', List.length_nil,
    List.getLastD_nil, Position.mk.injEq]
  refine ⟨by omega, ?_⟩
  by_cases hzero : lines = 0
  · rw [if_pos hzero, if_pos (by omega)]
    omega
  · rw [if_neg hzero, if_neg (by omega)]
    omega

/-- The text handed over is not divided inside a line end where the code begins or
ends. -/
theorem BlockAt.not_splitsLineEnd_padded (hb : BlockAt source element start first last stop) :
    ¬ (padded source (some element)).SplitsLineEnd first ∧
      ¬ (padded source (some element)).SplitsLineEnd last := by
  obtain ⟨m, hm, hcode⟩ := hb.code
  constructor
  · have hends := padding_ends first ((source.lineHeads 0).takeWhile (· ≤ first)).length
      (source.slice first last)
    rwa [← padded_eq hm hcode, length_padding (lines_le_offset source first)] at hends
  · rintro ⟨-, -, hlf⟩
    rw [List.getElem?_eq_none (by rw [length_padded hm hcode])] at hlf
    cases hlf

/-- **Positions in the code**: the text handed over puts them on their lines, and
in their columns where the code's own position is kept or left behind. -/
theorem positionAt_padded (hb : BlockAt source element start first last stop) {o : Nat}
    (h1 : first ≤ o) (h2 : o ≤ last) :
    ((LineIndex.ofText (padded source (some element))).positionAt o).line =
        ((LineIndex.ofText source).positionAt o).line ∧
      ((LineIndex.ofText (padded source (some element))).positionAt o =
          (LineIndex.ofText source).positionAt o ↔
        ((LineIndex.ofText source).positionAt first).line = 1 ∨
          ((LineIndex.ofText source).positionAt first).column = 0 ∨
          ((LineIndex.ofText source).positionAt first).line <
            ((LineIndex.ofText source).positionAt o).line) := by
  obtain ⟨m, hm, hcode⟩ := hb.code
  have hlen := length_padded hm hcode
  have hslice : (padded source (some element)).slice first last = source.slice first last := by
    rw [Text.slice_natCast (by omega) hcode.start_le_stop, List.take_of_length_le (by omega),
      padded_eq hm hcode, List.drop_left' (length_padding (lines_le_offset source first))]
  have hat := LineIndex.positionAt_slice hcode.start_le_stop hcode.stop_le
    hb.not_splitsLineEnd.1 hb.not_splitsLineEnd.2 h1 h2
  have hat' := LineIndex.positionAt_slice hcode.start_le_stop (Nat.le_of_eq hlen.symm)
    hb.not_splitsLineEnd_padded.1 hb.not_splitsLineEnd_padded.2 h1 h2
  rw [hslice, positionAt_padded_first hb] at hat'
  have hfirst := fun hone => LineIndex.column_of_line_one (t := source) (a := first) hone
  generalize (LineIndex.ofText source).positionAt first = p at hat hat' hfirst ⊢
  rw [hat, hat']
  refine ⟨rfl, ?_⟩
  cases hlast : (((source.slice first last).lineHeads first).takeWhile (· ≤ o)).getLast? with
  | none =>
    -- no line begins between the code and the offset
    rw [List.getLast?_eq_none_iff] at hlast
    simp only [hlast, List.length_nil, Position.mk.injEq]
    by_cases hone : p.line = 1
    · simp [hone, hfirst hone]
    · simp only [if_neg hone, true_and]
      omega
  | some head =>
    have hpos : 0 < (((source.slice first last).lineHeads first).takeWhile (· ≤ o)).length := by
      rw [List.length_pos_iff]
      intro hnil
      rw [hnil] at hlast
      cases hlast
    simp only [true_iff]
    omega

/-- **What a script reader reports in the block of a component**: a reader that
goes by the lines of what it is handed over has everything in the code on its
lines, and in place exactly when the code begins on the first line, or at the
head of a line, or on a line before. The tags are in place anyway. -/
theorem block_inPlace_iff (hb : BlockAt source element start first last stop)
    {parser : ScriptParser} (hp : parser.Locates) {asked : Nat} {inner : Program}
    (h : parser asked (padded source (some element)) = .ok inner) :
    ∃ program opening closing, block source (some element) parser asked = .ok program ∧
      program.body = inner.body ∧ program.comments = inner.comments ∧
      program.tokens = opening :: inner.tokens ++ [closing] ∧
      (opening.spot.InPlace source ∧ opening.range.span = (start, first)) ∧
      (closing.spot.InPlace source ∧ closing.range.span = (last, stop)) ∧
      ∀ x ∈ inner.spots, first ≤ x.range.start →
        x.OnLines source ∧
        (x.InPlace source ↔
          ((LineIndex.ofText source).positionAt first).line = 1 ∨
            ((LineIndex.ofText source).positionAt first).column = 0 ∨
            ((LineIndex.ofText source).positionAt first).line <
              ((LineIndex.ofText source).positionAt x.range.start).line) := by
  obtain ⟨program, opening, closing, hblock, hbody, hcomments, htokens, hopen, hclose⟩ :=
    exists_block hb h
  refine ⟨program, opening, closing, hblock, hbody, hcomments, htokens, hopen, hclose, ?_⟩
  intro x hx hfirst
  obtain ⟨m, hm, hcode⟩ := hb.code
  obtain ⟨hstop, hlocation⟩ := Spot.inPlace_iff.1 (hp asked _ inner h x hx)
  rw [length_padded hm hcode] at hstop
  have hle := x.range.start_le_stop
  have hlen := hcode.stop_le
  obtain ⟨hlineStart, hatStart⟩ := positionAt_padded hb hfirst (hle.trans hstop)
  obtain ⟨hlineStop, hatStop⟩ := positionAt_padded hb (hfirst.trans hle) hstop
  constructor
  · exact ⟨_, LineIndex.location_ofText (by omega) (by omega), by rw [hlocation, hlineStart],
      by rw [hlocation, hlineStop]⟩
  · rw [Spot.inPlace_iff, hlocation, ← hatStart, Location.mk.injEq]
    constructor
    · rintro ⟨-, hstart, -⟩
      exact hstart
    · intro hstart
      refine ⟨by omega, hstart, hatStop.2 ?_⟩
      -- a line that begins before the start begins before the end
      rcases hatStart.1 hstart with hone | hzero | hlater
      · exact .inl hone
      · exact .inr (.inl hzero)
      · refine .inr (.inr ?_)
        have hmono := LineIndex.line_le_line source hle
        omega

end

/-! ## A script behind its tag, on the second line -/

namespace BehindTag

/-- A source with an empty line first. -/
def source : Text := "\n<script>a</script>".toList

/-- Its script element, marked as its lines say. -/
def element : Markup.Element :=
  ⟨"script".toList, ⟨⟨1, 19, 2, 1⟩, some ⟨1, 9, 2, 1⟩, some ⟨10, 19, 2, 10⟩⟩, [],
    [.text ⟨9, 10, 2, 9⟩], none⟩

/-- The tree of the name in it. -/
def tree : Cst :=
  ⟨"program", 9, 10, true, false, false,
    [⟨"expression_statement", 9, 10, true, false, false,
      [⟨"identifier", 9, 10, true, false, false, []⟩]⟩]⟩

/-- The reader that is given this tree. -/
def parser : ScriptParser := Script.parser (fun _ _ _ => .ok tree) "javascript".toList

/-- What it reports: the name stands in the column after eight spaces and a line
feed, which is the first of its line. -/
def inner : Program :=
  ⟨[⟨"expression_statement", ⟨9, 10, by decide⟩, ⟨⟨2, 0⟩, ⟨2, 1⟩⟩, ['a'],
      [⟨"identifier", ⟨9, 10, by decide⟩, ⟨⟨2, 0⟩, ⟨2, 1⟩⟩, ['a'], []⟩]⟩],
    [⟨.identifier, ['a'], ['a'], ⟨9, 10, by decide⟩, ⟨⟨2, 0⟩, ⟨2, 1⟩⟩⟩], [], ⟨0, 10, by decide⟩⟩

/-- The element is in place. -/
theorem blockAt : BlockAt source element 1 9 10 19 where
  code := ⟨_, rfl, rfl, rfl, by decide, by decide, rfl, rfl⟩
  startTag := ⟨_, rfl, rfl, rfl, by decide, by decide, rfl, rfl⟩
  endTag := ⟨_, rfl, rfl, rfl, by decide, by decide, rfl, rfl⟩
  opens := ⟨rfl, rfl⟩
  closes := ⟨rfl, rfl⟩

/-- The reader answers. -/
theorem answers : parser 0 (padded source (some element)) = .ok inner := rfl

end BehindTag

/-- Its name is on its line, but not in its column. -/
theorem block_inPlace_behindTag :
    ∃ program opening closing,
      block BehindTag.source (some BehindTag.element) BehindTag.parser 0 = .ok program ∧
      program.body = BehindTag.inner.body ∧ program.comments = BehindTag.inner.comments ∧
      program.tokens = opening :: BehindTag.inner.tokens ++ [closing] ∧
      opening.spot.InPlace BehindTag.source ∧ closing.spot.InPlace BehindTag.source ∧
      ∀ x ∈ BehindTag.inner.spots,
        x.OnLines BehindTag.source ∧ ¬ x.InPlace BehindTag.source := by
  obtain ⟨program, opening, closing, hblock, hbody, hcomments, htokens, hopen, hclose, hspots⟩ :=
    block_inPlace_iff BehindTag.blockAt (locates_of_grammars _ _) BehindTag.answers
  refine ⟨program, opening, closing, hblock, hbody, hcomments, htokens, hopen.1, hclose.1, ?_⟩
  intro x hx
  have hrange : ∀ y ∈ BehindTag.inner.spots, y.range = ⟨9, 10, by decide⟩ := by decide
  obtain ⟨hlines, hplace⟩ := hspots x hx (by rw [hrange x hx])
  refine ⟨hlines, fun h => ?_⟩
  have hcases := hplace.1 h
  rw [hrange x hx] at hcases
  exact absurd hcases (by decide)

/-- **Not everything in a block is in place**, even for a reader that goes by the
lines of what it is handed over. -/
theorem block_not_inPlace :
    ¬ ∀ (source : Text) (element : Markup.Element) (start first last stop : Nat)
        (parser : ScriptParser) (asked : Nat) (program : Program),
      BlockAt source element start first last stop → parser.Locates →
        block source (some element) parser asked = .ok program →
          ∀ x ∈ program.spots, x.InPlace source := by
  intro h
  have hall := h _ _ _ _ _ _ BehindTag.parser 0 _ BehindTag.blockAt (locates_of_grammars _ _) rfl
  have hname := hall ⟨⟨9, 10, by decide⟩, ⟨⟨2, 0⟩, ⟨2, 1⟩⟩⟩ (by decide)
  have hlocation := (Spot.inPlace_iff.1 hname).2
  exact absurd hlocation (by decide)

end Script

end SingleFile
