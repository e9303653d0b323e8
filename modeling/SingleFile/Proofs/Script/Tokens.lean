import SingleFile.Proofs.Emission
import SingleFile.Proofs.Expression.Anchoring
import SingleFile.Proofs.Markup.Nested
import SingleFile.Proofs.Script.Padding
import SingleFile.Text.Blank

/-!
# The script block — its tokens

A token of a script begins with a character that is no blank, and the
padding in front of the code is blank, so the tokens that a script reader
finds in the text it is handed over lie in the code. Between the tokens
of the tags they fill the script element in order (`fill_block`).
-/

namespace SingleFile

/-- Tokens in order between two offsets of a text, each with the text of its range. -/
structure Fill (text : Text) (start stop : Nat) (ts : List Token) : Prop where
  ordered : ts.Pairwise Token.Before
  inside : ∀ t ∈ ts, start ≤ t.range.start ∧ t.range.stop ≤ stop
  raw : ∀ t ∈ ts, t.raw = t.range.of text

namespace Fill

variable {text : Text} {start mid stop : Nat} {ts us : List Token}

/-- No tokens fill anything. -/
theorem nil : Fill text start stop [] :=
  ⟨.nil, List.forall_mem_nil _, List.forall_mem_nil _⟩

/-- A part of the text fills its own offsets. -/
theorem singleton {t : Token} {a b : Int} (h : t.IsPart text a b) (ha : (start : Int) ≤ a)
    (hb : b ≤ stop) : Fill text start stop [t] := by
  have hstart := h.start_eq
  have hstop := h.stop_eq
  refine ⟨List.pairwise_singleton _ _, fun u hu => ?_, fun u hu => ?_⟩
  · obtain rfl := List.mem_singleton.1 hu
    omega
  · obtain rfl := List.mem_singleton.1 hu
    exact h.raw_eq

/-- Tokens up to an offset and tokens from there on. -/
theorem append (hts : Fill text start mid ts) (hus : Fill text mid stop us) (h1 : start ≤ mid)
    (h2 : mid ≤ stop) : Fill text start stop (ts ++ us) := by
  refine ⟨List.pairwise_append.2 ⟨hts.ordered, hus.ordered, fun a ha b hb => ?_⟩, fun t ht => ?_,
    fun t ht => ?_⟩
  · exact Nat.le_trans (hts.inside a ha).2 (hus.inside b hb).1
  · rcases List.mem_append.1 ht with ht | ht
    · have := hts.inside t ht
      omega
    · have := hus.inside t ht
      omega
  · rcases List.mem_append.1 ht with ht | ht
    · exact hts.raw t ht
    · exact hus.raw t ht

/-- Tokens between two offsets are between two that are further apart. -/
theorem mono {start' stop' : Nat} (h : Fill text start stop ts) (h1 : start' ≤ start)
    (h2 : stop ≤ stop') : Fill text start' stop' ts := by
  refine ⟨h.ordered, fun t ht => ?_, h.raw⟩
  obtain ⟨h3, h4⟩ := h.inside t ht
  exact ⟨Nat.le_trans h1 h3, Nat.le_trans h4 h2⟩

end Fill

/-! ## What a script reader finds -/

/-- The tokens of a program are those of a text: in order, not empty, beginning with
no blank, and with the text of their range. -/
structure Program.Lexed (p : Program) (text : Text) : Prop where
  ordered : p.tokens.Pairwise Token.Before
  inText : ∀ t ∈ p.tokens, t.range.start < t.range.stop ∧ t.range.stop ≤ text.length
  visible : ∀ t ∈ p.tokens, ∃ d, text[t.range.start]? = some d ∧ Text.isBlank d = false
  raw : ∀ t ∈ p.tokens, t.raw = t.range.of text

/-- A reader finds the tokens of the texts that it is handed over. -/
def ScriptParser.Lexes (parser : ScriptParser) : Prop :=
  ∀ asked text program, parser asked text = .ok program → program.Lexed text

/-- There is no token in an empty text. -/
theorem Program.Lexed.tokens_eq_nil {p : Program} (h : p.Lexed []) : p.tokens = [] := by
  rw [List.eq_nil_iff_forall_not_mem]
  intro t ht
  obtain ⟨hlt, hle⟩ := h.inText t ht
  rw [List.length_nil] at hle
  omega

namespace Script

variable {code : Text} {e : Markup.Element} {start first last stop a b : Nat} {m : Mark}
  {rest : List Markup.Entry} {inner program : Program}

/-- The padding is blank, and what follows it is the code. -/
theorem getElem?_padded (hchildren : e.children = .text m :: rest) (hm : m.PlacedIn code a b)
    {o : Nat} (ho : o < b) :
    if o < a then ∃ d, (padded code (some e))[o]? = some d ∧ Text.isBlank d = true
    else (padded code (some e))[o]? = code[o]? := by
  have hlen := length_padding (lines_le_offset code a)
  rw [padded_eq hchildren hm]
  split
  · rename_i hlt
    rw [List.getElem?_append_left (by omega), List.getElem?_eq_getElem (by omega)]
    refine ⟨_, rfl, ?_⟩
    have hmem := List.getElem_mem (l := padding a ((code.lineHeads 0).takeWhile (· ≤ a)).length)
      (n := o) (by omega)
    rcases List.mem_append.1 hmem with hspace | hfeed
    · rw [List.eq_of_mem_replicate hspace]
      decide
    · rw [List.eq_of_mem_replicate hfeed]
      decide
  · rename_i hge
    have hle := hm.start_le_stop
    rw [List.getElem?_append_right (by omega), hlen,
      Text.getElem?_slice hm.stop_le hle (by omega), Nat.add_sub_cancel' (by omega)]

/-- **The tokens of the text handed over lie in the code** and show it. -/
theorem fill_of_padded (hchildren : e.children = .text m :: rest) (hm : m.PlacedIn code a b)
    (h : inner.Lexed (padded code (some e))) : Fill code a b inner.tokens := by
  have hlength := length_padded hchildren hm
  have hstop := hm.stop_le
  have hinside : ∀ t ∈ inner.tokens, a ≤ t.range.start ∧ t.range.stop ≤ b := by
    intro t ht
    obtain ⟨hlt, hle⟩ := h.inText t ht
    obtain ⟨d, hd, hblank⟩ := h.visible t ht
    rw [hlength] at hle
    refine ⟨Nat.le_of_not_lt fun hbefore => ?_, hle⟩
    -- a token in the padding would begin with a blank
    have hat := getElem?_padded hchildren hm (o := t.range.start) (by omega)
    rw [if_pos hbefore] at hat
    obtain ⟨d', hd', hblank'⟩ := hat
    rw [hd, Option.some.injEq] at hd'
    rw [← hd', hblank] at hblank'
    cases hblank'
  refine ⟨h.ordered, hinside, fun t ht => ?_⟩
  obtain ⟨hlt, hle⟩ := h.inText t ht
  obtain ⟨h1, h2⟩ := hinside t ht
  rw [h.raw t ht]
  refine Text.slice_congr hle (by omega) t.range.start_le_stop fun o ho1 ho2 => ?_
  have hat := getElem?_padded hchildren hm (o := o) (by omega)
  rwa [if_neg (by omega)] at hat

/-- For an element that does not begin with text nothing is found. -/
theorem tokens_eq_nil_of_no_text (hchildren : ∀ m, e.children.head? ≠ some (.text m))
    (h : inner.Lexed (padded code (some e))) : inner.tokens = [] := by
  rw [padded_of_no_text hchildren] at h
  exact h.tokens_eq_nil

/-! ## The block -/

/-- The token of a tag fills whatever holds the mark of the tag. -/
theorem fill_tagToken {name : Text} {tag : Option Mark} {ts : List Token}
    (h : tagToken name code tag = .ok ts)
    (htag : ∀ m, tag = some m → (start : Int) ≤ m.start ∧ m.stop ≤ stop) :
    Fill code start stop ts := by
  unfold tagToken at h
  split at h
  · cases h
    exact .nil
  · obtain ⟨t, ht, h⟩ := except_bind_eq_ok_iff.1 h
    cases h
    obtain ⟨hstart, hstop⟩ := htag _ rfl
    exact .singleton (Token.isPart_of_ofMark ht) hstart hstop

/-- The program of a block is the one that the reader returns, with the tokens of
the tags around its own. -/
theorem exists_of_block {parser : ScriptParser} {asked : Nat}
    (h : block code (some e) parser asked = .ok program) :
    ∃ inner before after, parser asked (padded code (some e)) = .ok inner ∧
      tagToken "<script>".toList code e.mark.startTag = .ok before ∧
      tagToken "</script>".toList code e.mark.endTag = .ok after ∧
      program.tokens = before ++ inner.tokens ++ after := by
  obtain ⟨inner, hinner, h⟩ := except_bind_eq_ok_iff.1 h
  obtain ⟨before, hbefore, h⟩ := except_bind_eq_ok_iff.1 (Failure.ofBreach_eq_ok_iff.1 h)
  obtain ⟨after, hafter, h⟩ := except_bind_eq_ok_iff.1 h
  cases h
  exact ⟨inner, before, after, hinner, hbefore, hafter, rfl⟩

/-- **The tokens of a block fill its element**, when the marks of the element nest and
its code stands between its tags. -/
theorem fill_block {parser : ScriptParser} (hparser : parser.Lexes) {asked : Nat}
    (hmark : e.mark.Nested start first last stop)
    (hcode : ∀ m rest, e.children = .text m :: rest →
      ∃ a b, m.PlacedIn code a b ∧ first ≤ a ∧ b ≤ last)
    (h : block code (some e) parser asked = .ok program) : Fill code start stop program.tokens := by
  obtain ⟨inner, before, after, hinner, hbefore, hafter, htokens⟩ := exists_of_block h
  have hlexed := hparser _ _ _ hinner
  have hopen : Fill code start first before := fill_tagToken hbefore fun m hm => by
    obtain ⟨h1, -, h3⟩ := hmark.opening m hm
    exact ⟨h1, Int.le_of_eq h3⟩
  have hclose : Fill code last stop after := fill_tagToken hafter fun m hm => by
    obtain ⟨h1, -, h3⟩ := hmark.closing m hm
    exact ⟨Int.le_of_eq h1.symm, h3⟩
  have hfill : Fill code first last inner.tokens := by
    by_cases htext : ∃ m, e.children.head? = some (.text m)
    · obtain ⟨m, hm⟩ := htext
      obtain ⟨rest, hrest⟩ := List.head?_eq_some_iff.1 hm
      obtain ⟨a, b, hplaced, hfirst, hlast⟩ := hcode m rest hrest
      exact (fill_of_padded hrest hplaced hlexed).mono hfirst hlast
    · rw [tokens_eq_nil_of_no_text (fun m hm => htext ⟨m, hm⟩) hlexed]
      exact .nil
  rw [htokens]
  exact (hopen.append hfill hmark.before hmark.inner).append hclose
    (Nat.le_trans hmark.before hmark.inner) hmark.after

/-- **The tokens of the script of a tree** fill its node. -/
theorem fill_block_of_tree {parser : ScriptParser} (hparser : parser.Lexes) {asked : Nat}
    {tags : List Text} {c : Cst} (hc : c.Nested)
    (h : block code (some (Markup.Tree.element (.ofText code tags) c)) parser asked = .ok program) :
    Fill code ((ByteOffsets.ofText code).charIndex c.startByte)
      ((ByteOffsets.ofText code).charIndex c.stopByte) program.tokens := by
  have hmark := Markup.Tree.nested_mark (s := .ofText code tags) hc
  refine fill_block hparser (by rw [Markup.Tree.mark_element]; exact hmark) ?_ h
  intro m rest hchildren
  have hmem : Markup.Entry.text m ∈ Markup.Tree.entries (.ofText code tags) c := by
    have hmem : Markup.Entry.text m ∈ (Markup.Tree.element (.ofText code tags) c).children := by
      rw [hchildren]
      exact List.mem_cons_self
    rw [Markup.Tree.children_element, Markup.Tree.entries_element] at hmem
    split at hmem
    · cases hmem
    · exact hmem
  unfold Markup.Tree.entries at hmem
  split at hmem
  · cases hmem
  · obtain ⟨h1, h2, h3⟩ := (Markup.ordered_entriesOf (fun d hd => (hc.child hd).le) _ _).2 m
      (List.mem_filterMap.2 ⟨_, hmem, rfl⟩)
    rcases Markup.mem_entriesOf hmem with ⟨a, b, hlt, hb, hm⟩ | ⟨d, -, hd⟩
    · obtain rfl := Markup.Entry.text.inj hm
      have hlast := Markup.Tree.last_le c code tags
      exact ⟨a, b, Markup.Source.placedIn_mark tags hlt.le (Nat.le_trans (Int.ofNat_le.1 h3) hlast),
        Int.ofNat_le.1 h1, Int.ofNat_le.1 h3⟩
    · rcases Markup.entryOf_cases hd with ⟨-, htext⟩ | ⟨_, htext⟩ | ⟨_, htext⟩ <;> cases htext

/-- Without a script element nothing is handed over, and nothing found. -/
theorem tokens_eq_nil_of_none {parser : ScriptParser} (hparser : parser.Lexes) {asked : Nat}
    (h : block code none parser asked = .ok program) : program.tokens = [] := by
  obtain ⟨inner, hinner, h⟩ := except_bind_eq_ok_iff.1 h
  cases h
  exact (hparser _ _ _ hinner).tokens_eq_nil

end Script

end SingleFile
