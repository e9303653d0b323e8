import Mathlib.Data.List.Infix
import SingleFile.Proofs.Expression.InPlace
import SingleFile.Proofs.Location.Lines

/-!
# Expressions — the text handed over, and what comes back from it

The text handed over is the source before the code, blanked but for one
parenthesis, then the code decoded, then its end. Nothing moves: an
offset before the code has its position in the source, and where decoding
changes nothing so has one inside the code (`positionAt_surrogate`). What
a script reader takes from this text is therefore what stands in the
source, and it is committed as it was reported (`read_inPlace`).
One place is excepted. Code that is empty may stand between the CR and
the LF of one line end, which the text handed over does not divide
(`expression_not_as_reported`).
-/

namespace SingleFile

namespace Text

/-- A part occurs in a text when it is an infix of it. -/
theorem holds_iff_isInfix {part t : Text} : part.holds t = true ↔ part <:+: t := by
  induction t with
  | nil => rw [holds, List.isEmpty_iff, List.infix_nil]
  | cons c t ih =>
    rw [holds, Bool.or_eq_true, beginsWith_iff_isPrefix, ih, List.infix_cons_iff]

/-- A blanked text is blank. -/
theorem blankOut_blankOut (t : Text) : blankOut (blankOut t) = blankOut t := by
  induction t with
  | nil => rfl
  | cons c t ih =>
    cases hc : isTerminator c with
    | true => rw [blankOut_cons_of_terminator hc, blankOut_cons_of_terminator hc, ih]
    | false =>
      rw [blankOut_cons_of_not_terminator hc, blankOut_cons_of_not_terminator (by decide), ih]

end Text

namespace Template

variable {before lead code : Text}

/-! ## The parts of the text handed over -/

/-- **What stands before the code**: the line ends of the source before it, each where it was, the
parenthesis in the place of its last character that ends no line, and spaces in all other places. -/
def Leads (lead before : Text) : Prop :=
  lead.length = before.length ∧ ∃ (place : Nat) (c : Char),
    before[place]? = some c ∧ Text.isTerminator c = false ∧
      (∀ (o : Nat) (d : Char), place < o → before[o]? = some d → Text.isTerminator d = true) ∧
      ∀ (o : Nat) (d : Char), before[o]? = some d → lead[o]? =
        some (if Text.isTerminator d then d else if o = place then '(' else ' ')

/-- The parenthesis stands between a blanked front and line ends. -/
theorem parts_of_wrapperLead? (h : wrapperLead? before = some lead) :
    ∃ front c back, before = front ++ c :: back ∧ Text.isTerminator c = false ∧
      (∀ d ∈ back, Text.isTerminator d = true) ∧ lead = Text.blankOut front ++ '(' :: back := by
  unfold wrapperLead? at h
  cases hdrop : before.reverse.dropWhile Text.isTerminator with
  | nil => simp [hdrop] at h
  | cons c rest =>
    have hlead : Text.blankOut rest.reverse ++
        '(' :: (before.reverse.takeWhile Text.isTerminator).reverse = lead := by
      simpa [hdrop] using h
    have hbefore : before = rest.reverse ++
        c :: (before.reverse.takeWhile Text.isTerminator).reverse := by
      have hsplit := List.takeWhile_append_dropWhile (p := Text.isTerminator) (l := before.reverse)
      rw [hdrop] at hsplit
      simpa using (congrArg List.reverse hsplit).symm
    have hc : Text.isTerminator c = false := by
      have hhead := List.head?_dropWhile_not Text.isTerminator before.reverse
      simpa [hdrop] using hhead
    refine ⟨_, c, _, hbefore, hc, ?_, hlead.symm⟩
    intro d hd
    exact List.mem_takeWhile_imp (List.mem_reverse.1 hd)

/-- A blanked front, the parenthesis and line ends lead. -/
theorem leads_of_parts {front back : Text} {c : Char} (hc : Text.isTerminator c = false)
    (hback : ∀ d ∈ back, Text.isTerminator d = true) :
    Leads (Text.blankOut front ++ '(' :: back) (front ++ c :: back) := by
  have hlen : (Text.blankOut front).length = front.length := Text.length_blankOut front
  have hafter : ∀ (o : Nat) (d : Char), front.length < o → (front ++ c :: back)[o]? = some d →
      d ∈ back ∧ (Text.blankOut front ++ '(' :: back)[o]? = some d := by
    intro o d ho hd
    obtain ⟨k, rfl⟩ : ∃ k, o = front.length + (k + 1) := ⟨o - front.length - 1, by omega⟩
    rw [List.getElem?_append_right (by omega), Nat.add_sub_cancel_left,
      List.getElem?_cons_succ] at hd
    refine ⟨List.mem_of_getElem? hd, ?_⟩
    rw [List.getElem?_append_right (by omega), hlen, Nat.add_sub_cancel_left,
      List.getElem?_cons_succ, hd]
  refine ⟨by simp [hlen], front.length, c, by simp, hc,
    fun o d ho hd => hback d (hafter o d ho hd).1, fun o d hd => ?_⟩
  rcases Nat.lt_trichotomy o front.length with hlt | rfl | hgt
  · rw [List.getElem?_append_left hlt] at hd
    rw [List.getElem?_append_left (by omega), if_neg (Nat.ne_of_lt hlt)]
    unfold Text.blankOut
    rw [List.getElem?_map, hd]
    rfl
  · obtain rfl : c = d := by simpa using hd
    rw [if_neg (by simp [hc]), if_pos rfl, List.getElem?_append_right (Nat.le_of_eq hlen), hlen,
      Nat.sub_self, List.getElem?_cons_zero]
  · obtain ⟨hmem, hsame⟩ := hafter o d hgt hd
    rw [if_pos (hback d hmem), hsame]

/-- **The wrapper keeps lines and length**: it differs from the source in characters that end no
line. -/
theorem leads_of_wrapperLead? (h : wrapperLead? before = some lead) :
    Leads lead before ∧ lead.length = before.length ∧
      Text.blankOut lead = Text.blankOut before := by
  obtain ⟨front, c, back, rfl, hc, hback, rfl⟩ := parts_of_wrapperLead? h
  have hleads : Leads (Text.blankOut front ++ '(' :: back) (front ++ c :: back) :=
    leads_of_parts hc hback
  refine ⟨hleads, hleads.1, ?_⟩
  rw [Text.blankOut_append, Text.blankOut_append, Text.blankOut_blankOut,
    Text.blankOut_cons_of_not_terminator (by decide), Text.blankOut_cons_of_not_terminator hc]

/-- What follows the code begins with no LF, unless there is a comment in the code. -/
theorem wrapperTail_eq (code : Text) :
    wrapperTail code = if ['/', '/'] <:+: code then ['\n', ')'] else [')'] := by
  unfold wrapperTail
  simp only [Text.holds_iff_isInfix]

namespace ExpressionReader

section

variable {text : Text} {parser : ScriptParser} {reporter : String} {l : Ledger}
variable {start stop : Nat} {surrogate : Text}

/-- The text handed over, in its parts. -/
theorem parts_of_surrogate
    (hs : (ofText text parser reporter).surrogate? start stop = some surrogate)
    (hstart : start ≤ text.length) :
    ∃ lead, surrogate = lead ++ ((Decoded.ofText (text.slice start stop)).text ++
        wrapperTail (Decoded.ofText (text.slice start stop)).text) ∧
      Leads lead (text.take start) ∧ lead.length = start ∧
      Text.blankOut lead = Text.blankOut (text.take start) := by
  have hwrapped : wrapped? (text.take start) (Decoded.ofText (text.slice start stop)).text =
      some surrogate := hs
  obtain ⟨lead, hlead, heq⟩ := Option.map_eq_some_iff.1 hwrapped
  obtain ⟨hleads, hlen, hblank⟩ := leads_of_wrapperLead? hlead
  have htake : (text.take start).length = start := by
    rw [List.length_take]
    omega
  exact ⟨lead, by rw [← heq, List.append_assoc], hleads, hlen.trans htake, hblank⟩

/-- Code that decoding does not change is handed over as it stands. -/
theorem text_of_isIdentity (h : (Decoded.ofText (text.slice start stop)).isIdentity = true) :
    (Decoded.ofText (text.slice start stop)).text = text.slice start stop := eq_of_beq h

/-! ## Positions -/

/-- **Where the code ends, no line end is divided**, in the text handed over or in the source: code
that is not empty ends with no CR, and empty code does not stand inside a line end. -/
structure EndsWhole (text : Text) (start stop : Nat) : Prop where
  last : ∀ c, (text.slice start stop).getLast? = some c → Text.isBlank c = false
  empty : start = stop → ¬ text.SplitsLineEnd start

/-- So a part that ends with the code can be looked at alone. -/
theorem EndsWhole.not_splitsLineEnd (h : EndsWhole text start stop) (hle : start ≤ stop)
    (hstop : stop ≤ text.length) {lead tail : Text} (hlead : lead.length = start)
    (htail : start = stop → tail.head? ≠ some '\n') :
    ¬ text.SplitsLineEnd stop ∧
      ¬ Text.SplitsLineEnd ((lead ++ text.slice start stop) ++ tail)
        (lead ++ text.slice start stop).length := by
  have hlen := Text.length_slice hstop hle
  have hcode : (lead ++ text.slice start stop).length = stop := by
    rw [List.length_append, hlen]
    omega
  rw [hcode]
  rcases Nat.eq_or_lt_of_le hle with heq | hlt
  · refine ⟨heq ▸ h.empty heq, ?_⟩
    rintro ⟨-, -, hlf⟩
    rw [List.getElem?_append_right (by omega), hcode, Nat.sub_self, ← List.head?_eq_getElem?] at hlf
    exact htail heq hlf
  · -- the last character of the code, in both texts
    have hlast : (text.slice start stop)[stop - 1 - start]? = text[stop - 1]? := by
      rw [Text.getElem?_slice hstop hle (by omega), show start + (stop - 1 - start) = stop - 1 by omega]
    obtain ⟨c, hc⟩ : ∃ c, text[stop - 1]? = some c :=
      ⟨_, List.getElem?_eq_getElem (by omega)⟩
    have hblank : Text.isBlank c = false := by
      refine h.last c ?_
      rw [List.getLast?_eq_getElem?, hlen, show stop - start - 1 = stop - 1 - start by omega, hlast, hc]
    have hcr : c ≠ '\r' := by
      rintro rfl
      exact absurd hblank (by decide)
    refine ⟨Text.not_splitsLineEnd_of_before hc hcr, Text.not_splitsLineEnd_of_before ?_ hcr⟩
    rw [List.getElem?_append_left (by omega), List.getElem?_append_right (by omega), hlead, hlast, hc]

/-- **Nothing moves**: an offset before the code has its position in the source; where decoding
changes nothing, one inside the code does, and its end where no line end is divided there. -/
theorem positionAt_surrogate
    (hs : (ofText text parser reporter).surrogate? start stop = some surrogate)
    (hle : start ≤ stop) (hstop : stop ≤ text.length) {o : Nat}
    (ho : o < start ∨ (Decoded.ofText (text.slice start stop)).isIdentity = true ∧
      (o < stop ∨ o = stop ∧ EndsWhole text start stop)) :
    (LineIndex.ofText surrogate).positionAt o = (LineIndex.ofText text).positionAt o := by
  obtain ⟨lead, rfl, -, hlen, hblank⟩ := parts_of_surrogate hs (hle.trans hstop)
  rcases ho with hbefore | ⟨hid, hinside⟩
  · rw [← List.take_append_drop start text]
    exact LineIndex.positionAt_congr hblank (.inl (hlen ▸ hbefore))
  · have hsource : text = (text.take start ++ text.slice start stop) ++ text.drop stop := by
      rw [List.append_assoc, Text.take_append_slice_append_drop hstop hle]
    have hcode : (lead ++ text.slice start stop).length = stop := by
      rw [List.length_append, Text.length_slice hstop hle]
      omega
    have hfront : (text.take start ++ text.slice start stop).length = stop := by
      rw [List.length_append, Text.length_slice hstop hle, List.length_take]
      omega
    rw [text_of_isIdentity hid, ← List.append_assoc]
    conv_rhs => rw [hsource]
    refine LineIndex.positionAt_congr ?_ ?_
    · rw [Text.blankOut_append, Text.blankOut_append, hblank]
    · rw [hcode]
      refine hinside.imp_right fun hend => ⟨hend.1, ?_⟩
      have htail : start = stop → (wrapperTail (text.slice start stop)).head? ≠ some '\n' := by
        intro heq
        have hnil : text.slice start stop = [] := by
          rw [← List.length_eq_zero_iff, Text.length_slice hstop hle]
          omega
        rw [hnil]
        decide
      obtain ⟨hsourceEnd, hend⟩ := hend.2.not_splitsLineEnd hle hstop hlen htail
      rw [hcode] at hend
      rw [hfront, ← hsource]
      exact ⟨hend, hsourceEnd⟩

/-! ## Reports -/

/-- **A report that is read off the text handed over**: what stands at a range inside the code, and
where its ends are found. -/
structure ReadOff (surrogate : Text) (start stop : Nat) (range : Range) (raw : Text)
    (location : Location) : Prop where
  inside : start ≤ range.start ∧ range.stop ≤ stop
  raw_eq : raw = range.of surrogate
  location_eq : (LineIndex.ofText surrogate).location range.start range.stop = .ok location

/-- The tokens between the parentheses, the comments and the nodes of the expression are all read
off the text handed over. -/
structure ReadsOff (surrogate : Text) (start stop : Nat) (program : Program) (node : ScriptNode) :
    Prop where
  lexemes : ∀ t ∈ program.inner ++ program.comments,
    ReadOff surrogate start stop t.range t.raw t.location
  nodes : ∀ x ∈ node.walk, ReadOff surrogate start stop x.range x.raw x.location

/-- Inside code that decoding does not change stands the source. -/
theorem getElem?_surrogate
    (hs : (ofText text parser reporter).surrogate? start stop = some surrogate)
    (hle : start ≤ stop) (hstop : stop ≤ text.length)
    (hid : (Decoded.ofText (text.slice start stop)).isIdentity = true) {o : Nat} (h1 : start ≤ o)
    (h2 : o < stop) : surrogate[o]? = text[o]? := by
  obtain ⟨lead, rfl, -, hlen, -⟩ := parts_of_surrogate hs (hle.trans hstop)
  have hcode := Text.length_slice hstop hle
  rw [text_of_isIdentity hid, List.getElem?_append_right (by omega),
    List.getElem?_append_left (by omega), Text.getElem?_slice hstop hle (by omega), hlen,
    Nat.add_sub_cancel' h1]

/-- The text handed over is no shorter than what stands up to the end of the code. -/
theorem stop_le_surrogate
    (hs : (ofText text parser reporter).surrogate? start stop = some surrogate)
    (hle : start ≤ stop) (hstop : stop ≤ text.length)
    (hid : (Decoded.ofText (text.slice start stop)).isIdentity = true) :
    stop ≤ surrogate.length := by
  obtain ⟨lead, rfl, -, hlen, -⟩ := parts_of_surrogate hs (hle.trans hstop)
  have hcode := Text.length_slice hstop hle
  rw [text_of_isIdentity hid]
  simp only [List.length_append]
  omega

/-- **What was read off the text handed over stands in the source.** -/
theorem ReadOff.inPlace {range : Range} {raw : Text} {location : Location}
    (h : ReadOff surrogate start stop range raw location)
    (hs : (ofText text parser reporter).surrogate? start stop = some surrogate)
    (hle : start ≤ stop) (hstop : stop ≤ text.length)
    (hid : (Decoded.ofText (text.slice start stop)).isIdentity = true)
    (hwhole : EndsWhole text start stop) :
    (ofText text parser reporter).sourcePlace start (.ofText (text.slice start stop)) range =
        .ok ⟨range, location⟩ ∧ range.of text = raw := by
  obtain ⟨h1, h2⟩ := h.inside
  have hrange := range.start_le_stop
  have hsize := stop_le_surrogate hs hle hstop hid
  have hposition : ∀ o ≤ stop,
      (LineIndex.ofText surrogate).positionAt o = (LineIndex.ofText text).positionAt o := by
    intro o ho
    refine positionAt_surrogate hs hle hstop (.inr ⟨hid, ?_⟩)
    exact (Nat.lt_or_eq_of_le ho).imp_right fun heq => ⟨heq, hwhole⟩
  have hlocation : (LineIndex.ofText text).location range.start range.stop = .ok location := by
    have hfound := h.location_eq
    rw [LineIndex.location_ofText (by omega) (by omega)] at hfound ⊢
    rw [← hfound, hposition _ (by omega), hposition _ h2]
  have hmap : sourceRange start (.ofText (text.slice start stop)) range = .ok range := by
    have hback : ∀ o, (Decoded.ofText (text.slice start stop)).rawStop o = o := by
      intro o
      cases o with
      | zero => rfl
      | succ o => rw [Decoded.rawStop, if_pos hid]
    unfold sourceRange
    rw [if_pos h1, Decoded.rawStart, if_pos hid, hback, Nat.add_sub_cancel' h1,
      Nat.add_sub_cancel' (h1.trans hrange), Range.ofBounds_natCast hrange]
  constructor
  · unfold sourcePlace
    rw [hmap]
    exact except_bind_eq_ok_iff.2 ⟨range, rfl, except_bind_eq_ok_iff.2 ⟨location, hlocation, rfl⟩⟩
  · rw [h.raw_eq]
    unfold Range.of
    refine Text.slice_congr (by omega) (by omega) hrange fun o ho1 ho2 => ?_
    exact (getElem?_surrogate hs hle hstop hid (by omega) (by omega)).symm

mutual
/-- A node is anchored as it was reported, when everything in it is. -/
theorem anchorNode_eq_self {r : ExpressionReader} {s : Nat} {d : Decoded} :
    ∀ node : ScriptNode,
      (∀ x ∈ node.walk, r.sourcePlace s d x.range = .ok ⟨x.range, x.location⟩ ∧
        x.range.of r.text = x.raw) → r.anchorNode s d node = .ok node
  | ⟨kind, range, location, raw, children⟩, h => by
    rw [ScriptNode.walk, List.forall_mem_cons] at h
    obtain ⟨⟨hplace, hraw⟩, hbelow⟩ := h
    have hchildren := anchorNodes_eq_self children hbelow
    dsimp only at hplace hraw
    rw [anchorNode, hplace, hchildren]
    simp only [bind, Except.bind, pure, Except.pure, hraw]

/-- So are several. -/
theorem anchorNodes_eq_self {r : ExpressionReader} {s : Nat} {d : Decoded} :
    ∀ nodes : List ScriptNode,
      (∀ x ∈ ScriptNode.walkAll nodes, r.sourcePlace s d x.range = .ok ⟨x.range, x.location⟩ ∧
        x.range.of r.text = x.raw) → r.anchorNodes s d nodes = .ok nodes
  | [], _ => rfl
  | node :: nodes, h => by
    rw [ScriptNode.walkAll, List.forall_mem_append] at h
    rw [anchorNodes, anchorNode_eq_self node h.1, anchorNodes_eq_self nodes h.2]
    rfl
end

/-- The comment that a reported one is committed as. -/
def reported (t : Token) : Comment := ⟨⟨t.range, t.location⟩, t.kind, t.value⟩

/-- **A commit in place**: what is about to go in is what was reported. -/
theorem Commits.reported {program : Program} {node : ScriptNode} {ts : List Token}
    {cs : List Comment} {n : Nat}
    (h : (ofText text parser reporter).Commits start stop n program node ts cs)
    (hs : (ofText text parser reporter).surrogate? start stop = some surrogate)
    (hread : ReadsOff surrogate start stop program node) (hle : start ≤ stop)
    (hstop : stop ≤ text.length)
    (hid : (Decoded.ofText (text.slice start stop)).isIdentity = true)
    (hwhole : EndsWhole text start stop) :
    ts = program.inner ∧ cs = program.comments.map ExpressionReader.reported ∧
      (ofText text parser reporter).anchorNode start ((ofText text parser reporter).code start stop)
        node = .ok node := by
  have hlexemes : ∀ t ∈ program.inner ++ program.comments,
      (ofText text parser reporter).sourcePlace start (.ofText (text.slice start stop)) t.range =
        .ok ⟨t.range, t.location⟩ ∧ t.range.of text = t.raw := fun t ht =>
    (hread.lexemes t ht).inPlace hs hle hstop hid hwhole
  obtain ⟨hinner, hcomments⟩ := List.forall_mem_append.1 hlexemes
  have htokens : program.inner.mapM ((ofText text parser reporter).anchorToken start
      (.ofText (text.slice start stop))) = .ok program.inner := by
    rw [mapM_eq_ok_iff, List.forall₂_same]
    intro t ht
    obtain ⟨hplace, hraw⟩ := hinner t ht
    exact anchorToken_eq_ok_iff.2 ⟨_, hplace, by simp only [ofText, hraw]⟩
  have hmarked : program.comments.mapM ((ofText text parser reporter).anchorComment start
      (.ofText (text.slice start stop))) = .ok (program.comments.map ExpressionReader.reported) := by
    rw [mapM_eq_ok_iff, List.forall₂_map_right_iff, List.forall₂_same]
    intro t ht
    exact anchorComment_eq_ok_iff.2 ⟨_, (hcomments t ht).1, rfl⟩
  refine ⟨Except.ok.inj (h.tokens.symm.trans htokens), Except.ok.inj (h.comments.symm.trans hmarked),
    anchorNode_eq_self node fun x hx => ?_⟩
  exact (hread.nodes x hx).inPlace hs hle hstop hid hwhole

/-- **The script reader sees the code in place, and what it reports is committed in place.** One
text is handed over: the line ends of the source before the code, with spaces for all else but for
the parenthesis; the code, decoded; and its end, which begins a line of its own when `//` occurs in
the code. Offsets before the code, and inside code that decoding does not change, have their
positions in the source. Where such code ends whole and all reports are read off the text, a call
that returns has put in every inner token and every comment, and returns the expression, as they
were reported. -/
theorem read_inPlace (hstart : 0 < start) (hle : start ≤ stop) (hstop : stop ≤ text.length)
    (hroom : ∃ o < start, ∃ c, text[o]? = some c ∧ Text.isTerminator c = false) :
    ∃ surrogate lead code, code = (Decoded.ofText (text.slice start stop)).text ∧
      (∀ n, Effect.texts ((ofText text parser reporter).read start stop n).effects = [surrogate]) ∧
      surrogate = lead ++ (code ++ if ['/', '/'] <:+: code then ['\n', ')'] else [')']) ∧
      lead.length = start ∧ Leads lead (text.take start) ∧
      (∀ o : Nat, o < start ∨
          o < stop ∧ (Decoded.ofText (text.slice start stop)).isIdentity = true →
        (LineIndex.ofText surrogate).position o = (LineIndex.ofText text).position o) ∧
      ((Decoded.ofText (text.slice start stop)).isIdentity = true → EndsWhole text start stop →
        ∀ l : Ledger,
          (∀ program node, parser l.asked.length surrogate = .ok program →
            unwrapped? program surrogate.length = some node →
              ReadsOff surrogate start stop program node) →
          ∀ expression,
            (l.run ((ofText text parser reporter).read start stop)).2 = .ok (.ok expression) →
              ∃ program, parser l.asked.length surrogate = .ok program ∧
                unwrapped? program surrogate.length = some expression ∧
                (l.run ((ofText text parser reporter).read start stop)).1.store.tokens =
                  l.store.tokens ++ program.inner ∧
                (l.run ((ofText text parser reporter).read start stop)).1.comments =
                  l.comments ++ program.comments.map reported) := by
  have hadmits : (ofText text parser reporter).Admits start stop :=
    ⟨by omega, by omega, Int.ofNat_le.2 hstop⟩
  obtain ⟨surrogate, hs⟩ : ∃ surrogate,
      (ofText text parser reporter).surrogate? start stop = some surrogate := by
    obtain ⟨o, ho, c, hc, hterm⟩ := hroom
    refine exists_wrapped _ ⟨c, ?_, hterm⟩
    exact List.mem_of_getElem? ((List.getElem?_take_of_lt ho).trans hc)
  obtain ⟨lead, hparts, hleads, hlen, -⟩ := parts_of_surrogate hs (hle.trans hstop)
  refine ⟨surrogate, lead, _, rfl, fun n => texts_read hadmits hs, ?_, hlen, hleads, ?_, ?_⟩
  · rw [← wrapperTail_eq]
    exact hparts
  · intro o ho
    have hsize : o ≤ surrogate.length := by
      rcases ho with hbefore | ⟨hinside, hid⟩
      · rw [hparts, List.length_append]
        omega
      · have := stop_le_surrogate hs hle hstop hid
        omega
    have hposition := positionAt_surrogate hs hle hstop (o := o)
      (ho.imp_right fun hinside => ⟨hinside.2, .inl hinside.1⟩)
    rw [LineIndex.position_ofText hsize, LineIndex.position_ofText (by omega), hposition]
  · intro hid hwhole l hread expression hok
    obtain ⟨program, node, ts, cs, hc, hall, -⟩ := exists_run_eq_ok_iff.1 ⟨expression, hok⟩
    obtain ⟨surrogate', hs', hv⟩ := hc.accepted
    obtain rfl : surrogate = surrogate' := Option.some.inj (hs.symm.trans hs')
    have hanswer : parser l.asked.length surrogate = .ok program ∧
        unwrapped? program surrogate.length = some node := verdict_eq_ok_iff.1 hv
    obtain ⟨rfl, rfl, hnode⟩ :=
      hc.reported hs (hread program node hanswer.1 hanswer.2) hle hstop hid hwhole
    obtain ⟨hstore, hcomments, hresult⟩ := hc.run_eq
    obtain ⟨taken, -, htokens, -, htaken⟩ := l.store.pushAll_tokens program.inner
    rw [hok, hall] at hresult
    simp only [Int.toNat_natCast, hnode] at hresult
    cases hresult
    refine ⟨program, hanswer.1, hanswer.2, ?_, ?_⟩
    · rw [hstore, htokens, htaken hall]
    · rw [hcomments, if_pos hall]

end

/-! ## The comparison, without references -/

/-- A call that returns an expression, told by where it stands. -/
theorem exists_of_location {x : Except Failure (Except SyntaxError ScriptNode)} {p : Location}
    (h : (x.toOption.bind Except.toOption).map (·.location) = some p) :
    ∃ node, x = .ok (.ok node) ∧ node.location = p := by
  rcases x with f | e | node
  · cases h
  · cases h
  · exact ⟨node, rfl, Option.some.inj h⟩

namespace LessThan

/-- The source in which the comparison is written without references. -/
def plain : Text := "<p>{{a<b}}</p>".toList

/-- The text handed over for it. -/
def surrogate : Text := "    (a<b)".toList

/-- Decoding does not change it, and it ends whole. -/
theorem plain_unchanged :
    (Decoded.ofText (plain.slice (5 : Nat) (8 : Nat))).isIdentity = true ∧ EndsWhole plain 5 8 := by
  refine ⟨by decide +kernel, fun c hc => ?_, fun h => by omega⟩
  rw [show plain.slice (5 : Nat) (8 : Nat) = ['a', '<', 'b'] by decide] at hc
  cases hc
  decide

/-- The answer is read off the text handed over. -/
theorem readsOff : ReadsOff surrogate 5 8 LessThan.program LessThan.node where
  lexemes := by
    have hall : ∀ t ∈ LessThan.program.inner ++ LessThan.program.comments,
        (5 ≤ t.range.start ∧ t.range.stop ≤ 8) ∧ t.raw = t.range.of surrogate ∧
          (LineIndex.ofText surrogate).location t.range.start t.range.stop = .ok t.location := by
      decide +kernel
    exact fun t ht => ⟨(hall t ht).1, (hall t ht).2.1, (hall t ht).2.2⟩
  nodes := by
    have hall : ∀ x ∈ LessThan.node.walk, (5 ≤ x.range.start ∧ x.range.stop ≤ 8) ∧
        x.raw = x.range.of surrogate ∧
          (LineIndex.ofText surrogate).location x.range.start x.range.stop = .ok x.location := by
      decide +kernel
    exact fun x hx => ⟨(hall x hx).1, (hall x hx).2.1, (hall x hx).2.2⟩

/-- The call for the comparison. -/
def call : Emission (Except SyntaxError ScriptNode) :=
  (ofText plain LessThan.parser "").read (5 : Nat) (8 : Nat)

/-- It hands over that text, and returns. -/
theorem run_call : Effect.texts (call 0).effects = [surrogate] ∧
    ((Ledger.run {} call).2.toOption.bind Except.toOption).map (·.location) =
      some (location 5 8) := by
  decide +kernel

end LessThan

/-- The comparison is committed as it was reported. -/
theorem read_inPlace_comparison :
    (0 < 5 ∧ 5 ≤ 8 ∧ 8 ≤ LessThan.plain.length ∧
      ∃ o < 5, ∃ c, LessThan.plain[o]? = some c ∧ Text.isTerminator c = false) ∧
      (Ledger.run {} LessThan.call).2 = .ok (.ok LessThan.node) ∧
      (Ledger.run {} LessThan.call).1.store.tokens = LessThan.inner := by
  have hbounds : 0 < 5 ∧ 5 ≤ 8 ∧ 8 ≤ LessThan.plain.length := ⟨by decide, by decide, by decide⟩
  have hroom : ∃ o < 5, ∃ c, LessThan.plain[o]? = some c ∧ Text.isTerminator c = false :=
    ⟨0, by decide, '<', by decide, by decide⟩
  obtain ⟨surrogate, lead, code, -, htexts, -, -, -, -, hcommitted⟩ :=
    @read_inPlace LessThan.plain LessThan.parser "" 5 8 hbounds.1 hbounds.2.1 hbounds.2.2 hroom
  obtain rfl : surrogate = LessThan.surrogate :=
    List.head_eq_of_cons_eq ((htexts 0).symm.trans LessThan.run_call.1)
  -- the reader gives one answer to everything
  have hread : ∀ program node, LessThan.parser 0 LessThan.surrogate = .ok program →
      unwrapped? program LessThan.surrogate.length = some node →
        program = LessThan.program ∧ node = LessThan.node := by
    rintro _ node ⟨⟩ hnode
    exact ⟨rfl, (Option.some.inj hnode).symm⟩
  obtain ⟨expression, hok, -⟩ := exists_of_location LessThan.run_call.2
  obtain ⟨program, hprogram, hnode, hstore, -⟩ :=
    hcommitted LessThan.plain_unchanged.1 LessThan.plain_unchanged.2 {}
      (fun program node hprogram hnode => by
        obtain ⟨rfl, rfl⟩ := hread program node hprogram hnode
        exact LessThan.readsOff) expression hok
  obtain ⟨rfl, rfl⟩ := hread program expression hprogram hnode
  exact ⟨⟨hbounds.1, hbounds.2.1, hbounds.2.2, hroom⟩, hok, hstore⟩

/-! ## Empty code inside a line end -/

namespace InsideLineEnd

/-- A source whose only line end is a CRLF. -/
def source : Text := ['a', '\r', '\n']

/-- The text handed over for the empty code between its CR and its LF. -/
def surrogate : Text := ['(', '\r', ')']

/-- A name of no characters, on the second line of that text. -/
def node : ScriptNode := ⟨"identifier", ⟨2, 2, by omega⟩, ⟨⟨2, 0⟩, ⟨2, 0⟩⟩, [], []⟩

/-- The parentheses around it. -/
def group : ScriptNode :=
  ⟨"parenthesized_expression", ⟨0, 3, by omega⟩, ⟨⟨1, 0⟩, ⟨2, 1⟩⟩, surrogate, [node]⟩

/-- The whole answer. -/
def program : Program where
  body := [⟨"expression_statement", group.range, group.location, group.raw, [group]⟩]
  tokens := [⟨.punctuator, ['('], ['('], ⟨0, 1, by omega⟩, ⟨⟨1, 0⟩, ⟨1, 1⟩⟩⟩,
    ⟨.punctuator, [')'], [')'], ⟨2, 3, by omega⟩, ⟨⟨2, 0⟩, ⟨2, 1⟩⟩⟩]
  comments := []
  range := ⟨0, 3, by omega⟩

/-- The reader that gives this answer to everything. -/
def parser : ScriptParser := fun _ _ => .ok program

/-- The answer is read off the text handed over. -/
theorem readsOff : ReadsOff surrogate 2 2 program node where
  lexemes := fun t ht => by cases ht
  nodes := by
    intro x hx
    rw [show node.walk = [node] from rfl, List.mem_singleton] at hx
    subst hx
    exact ⟨by decide, by decide, by decide⟩

/-- The call returns the name, on the first line. -/
theorem run_located : ((Ledger.run {} ((ofText source parser "").read (2 : Nat) (2 : Nat))).2.toOption.bind
    Except.toOption).map (·.location) = some ⟨⟨1, 2⟩, ⟨1, 2⟩⟩ := by
  decide +kernel

end InsideLineEnd

/-- **Not every report is committed as it was made**: the CR of a divided line end ends a line of
the text handed over, so a node of empty code behind it is found on the next line there, and in
the source on the line that has not ended. -/
theorem expression_not_as_reported :
    ¬ ∀ (text : Text) (parser : ScriptParser) (reporter : String) (l : Ledger) (start stop : Nat)
        (surrogate : Text), 0 < start → start ≤ stop → stop ≤ text.length →
      (ofText text parser reporter).surrogate? start stop = some surrogate →
      (Decoded.ofText (text.slice start stop)).isIdentity = true →
      (∀ c, (text.slice start stop).head? = some c ∨ (text.slice start stop).getLast? = some c →
        Text.isBlank c = false) →
      (∀ program node, parser l.asked.length surrogate = .ok program →
        unwrapped? program surrogate.length = some node →
          ReadsOff surrogate start stop program node) →
      ∀ expression,
        (l.run ((ofText text parser reporter).read start stop)).2 = .ok (.ok expression) →
          ∃ program, parser l.asked.length surrogate = .ok program ∧
            unwrapped? program surrogate.length = some expression := by
  intro h
  obtain ⟨expression, hok, hlocation⟩ := exists_of_location InsideLineEnd.run_located
  obtain ⟨program, hprogram, hnode⟩ := h InsideLineEnd.source InsideLineEnd.parser "" {} 2 2
    InsideLineEnd.surrogate (by decide) (by decide) (by decide) (by decide +kernel)
    (by decide +kernel) (fun c hc => by rcases hc with hc | hc <;> cases hc)
    (by
      rintro _ node ⟨⟩ hnode
      cases hnode
      exact InsideLineEnd.readsOff) expression hok
  cases hprogram
  cases hnode
  exact absurd hlocation (by decide)

end ExpressionReader

end Template

end SingleFile
