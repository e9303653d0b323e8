import Mathlib.Data.List.Pairwise
import SingleFile.Proofs.Component.Containers
import SingleFile.Proofs.Script.Tokens
import SingleFile.Proofs.Settings.Delimiters
import SingleFile.Proofs.Template.Inside
import SingleFile.Proofs.Template.Raw

/-!
# Components — one stream of tokens

The tokens of the script fill the script element and those of the template
lie in the template element. The two are different elements at the top of
the markup, so over a tree whose nodes nest the one ends before the other
starts. Sorting the tokens of both then puts every token before the next
and takes none of a block out of its order (`streamed_of_read`).
-/

namespace SingleFile

/-! ## Sorted tokens -/

/-- Of two tokens in the order of a listing, one of which lies before the other, it is
the first. -/
theorem Token.before_of_listed {a b : Token}
    (hlisted : a.range.start < b.range.start ∨
      a.range.start = b.range.start ∧ a.range.stop ≤ b.range.stop)
    (hapart : a.Before b ∨ b.Before a) : a.Before b := by
  have ha := a.range.start_le_stop
  have hb := b.range.start_le_stop
  unfold Before at *
  omega

/-- **Sorting keeps the order of a part** of a list that is sorted already. -/
theorem filter_mergeSort {α : Type} {le : α → α → Bool} {p : α → Bool} {l : List α}
    (trans : ∀ a b c, le a b = true → le b c = true → le a c = true)
    (total : ∀ a b, (le a b || le b a) = true)
    (hp : (l.filter p).Pairwise fun a b => le a b = true) :
    (l.mergeSort le).filter p = l.filter p := by
  have hsub : (l.filter p).Sublist (l.mergeSort le) :=
    List.sublist_mergeSort trans total hp List.filter_sublist
  have hfilter := hsub.filter p
  simp only [List.filter_filter, Bool.and_self] at hfilter
  exact (hfilter.eq_of_length ((List.mergeSort_perm l le).filter p).length_eq.symm).symm

namespace Component

/-- The tokens of a block of a component. -/
def tokensOf (c : Component) : Region → List Token
  | .script => c.script.tokens
  | .template => match c.template with
    | none => []
    | some r => r.store.tokens

/-- Whether a token may stand before another in a listing. -/
def listed (a b : Region × Token) : Bool :=
  a.2.range.start < b.2.range.start ||
    (a.2.range.start == b.2.range.start && a.2.range.stop ≤ b.2.range.stop)

/-- One token may stand before another when it starts before it, or with it and ends
no later. -/
theorem listed_eq_true {a b : Region × Token} :
    listed a b = true ↔ a.2.range.start < b.2.range.start ∨
      a.2.range.start = b.2.range.start ∧ a.2.range.stop ≤ b.2.range.stop := by
  simp [listed]

/-- Any listing order is passed on. -/
theorem listed_trans (a b c : Region × Token) (hab : listed a b = true) (hbc : listed b c = true) :
    listed a c = true := by
  rw [listed_eq_true] at *
  omega

/-- Any two tokens can be listed one way or the other. -/
theorem listed_total (a b : Region × Token) : (listed a b || listed b a) = true := by
  rw [Bool.or_eq_true, listed_eq_true, listed_eq_true]
  omega

/-- A token before another may be listed before it. -/
theorem listed_of_before {a b : Region × Token} (h : a.2.Before b.2) : listed a b = true := by
  have ha := a.2.range.start_le_stop
  have hb := b.2.range.start_le_stop
  unfold Token.Before at h
  rw [listed_eq_true]
  omega

/-- The tokens of both blocks, those of the script first. -/
def unlisted (c : Component) : List (Region × Token) :=
  (c.tokensOf .script).map (Region.script, ·) ++ (c.tokensOf .template).map (Region.template, ·)

/-- The tokens of a component are those of both blocks, sorted. -/
theorem tokens_eq (c : Component) : c.tokens = c.unlisted.mergeSort listed := by
  obtain ⟨script, template, styles⟩ := c
  cases template <;> rfl

/-- Those of one block among them. -/
theorem filter_unlisted (c : Component) (region : Region) :
    c.unlisted.filter (·.1 = region) = (c.tokensOf region).map (region, ·) := by
  unfold unlisted
  rw [List.filter_append, List.filter_map, List.filter_map]
  cases region <;> simp [Function.comp_def]

/-- **The tokens of a component are one stream** over a text: they follow one another,
are those of its blocks, each block in its own order, and hold the text of their range. -/
structure Streamed (c : Component) (text : Text) : Prop where
  sorted : c.tokens.Pairwise fun a b => a.2.range.start ≤ b.2.range.start
  disjoint : c.tokens.Pairwise fun a b => a.2.Before b.2
  perm : c.tokens.Perm
    ((c.tokensOf .script).map (Region.script, ·) ++ (c.tokensOf .template).map (Region.template, ·))
  blocks : ∀ region, c.tokens.filter (·.1 = region) = (c.tokensOf region).map (region, ·)
  raw : ∀ x ∈ c.tokens, x.2.raw = x.2.range.of text

/-- **Blocks that are apart make one stream.** -/
theorem streamed_of_apart {c : Component} {text : Text}
    (hordered : ∀ region, (c.tokensOf region).Pairwise Token.Before)
    (hraw : ∀ region, ∀ t ∈ c.tokensOf region, t.raw = t.range.of text)
    (hapart : ∀ a ∈ c.tokensOf .script, ∀ b ∈ c.tokensOf .template, a.Before b ∨ b.Before a) :
    c.Streamed text := by
  have hperm := List.mergeSort_perm c.unlisted listed
  rw [← tokens_eq] at hperm
  have hunlisted : c.unlisted.Pairwise fun a b => a.2.Before b.2 ∨ b.2.Before a.2 := by
    refine List.pairwise_append.2 ⟨?_, ?_, ?_⟩
    · exact List.pairwise_map.2 ((hordered .script).imp Or.inl)
    · exact List.pairwise_map.2 ((hordered .template).imp Or.inl)
    · intro x hx y hy
      obtain ⟨a, ha, rfl⟩ := List.mem_map.1 hx
      obtain ⟨b, hb, rfl⟩ := List.mem_map.1 hy
      exact hapart a ha b hb
  have hlisted := List.pairwise_mergeSort listed_trans listed_total c.unlisted
  rw [← tokens_eq] at hlisted
  have hdisjoint : c.tokens.Pairwise fun a b => a.2.Before b.2 :=
    (hlisted.and ((hperm.pairwise_iff Or.symm).2 hunlisted)).imp fun ⟨hab, hor⟩ =>
      Token.before_of_listed (listed_eq_true.1 hab) hor
  refine ⟨?_, hdisjoint, hperm, fun region => ?_, fun x hx => ?_⟩
  · refine hdisjoint.imp fun {a b} hab => ?_
    exact Nat.le_trans a.2.range.start_le_stop hab
  · rw [tokens_eq, filter_mergeSort listed_trans listed_total, filter_unlisted]
    rw [filter_unlisted]
    exact List.pairwise_map.2 ((hordered region).imp listed_of_before)
  · rcases List.mem_append.1 (hperm.mem_iff.1 hx) with hx | hx
    · obtain ⟨a, ha, rfl⟩ := List.mem_map.1 hx
      exact hraw .script a ha
    · obtain ⟨a, ha, rfl⟩ := List.mem_map.1 hx
      exact hraw .template a ha

end Component

/-! ## Elements at the top -/

namespace Markup

variable {code : Text} {tags : List Text} {root : Cst}

/-- The place of an element is that of its entry. -/
theorem Entry.mark?_of_element? {entry : Entry} {e : Element} (h : entry.element? = some e) :
    entry.mark? = some e.mark.whole := by
  cases entry with
  | element name mark as children content =>
    cases h
    rfl
  | text _ | comment _ _ | other _ _ | fragment _ | document _ => cases h

/-- Elements at the top of a document over a nested tree follow one another. -/
theorem pairwise_elements (h : root.Nested) :
    ((Document.ofTree code tags root).children.filterMap Entry.element?).Pairwise
      fun a b => a.mark.whole.stop ≤ b.mark.whole.start := by
  have hordered := (ordered_entriesOf (s := .ofText code tags) (fun c hc => (h.child hc).le) 0
    code.length).1
  refine List.pairwise_filterMap.2 ((List.pairwise_filterMap.1 hordered).imp ?_)
  intro a b hab e he e' he'
  exact hab _ (Entry.mark?_of_element? he) _ (Entry.mark?_of_element? he')

/-- One of two elements ends before the other starts. -/
def Element.Apart (a b : Element) : Prop :=
  a.mark.whole.stop ≤ b.mark.whole.start ∨ b.mark.whole.stop ≤ a.mark.whole.start

instance : Std.Symm Element.Apart := ⟨fun _ _ => Or.symm⟩

/-- **Two of them are apart.** -/
theorem apart_of_ne (h : root.Nested) {e e' : Element}
    (he : e ∈ (Document.ofTree code tags root).children.filterMap Entry.element?)
    (he' : e' ∈ (Document.ofTree code tags root).children.filterMap Entry.element?)
    (hne : e ≠ e') : e.Apart e' := by
  have hpairwise : ((Document.ofTree code tags root).children.filterMap Entry.element?).Pairwise
      Element.Apart := (pairwise_elements h).imp Or.inl
  exact hpairwise.forall he he' hne

/-- Tokens fill the element of a name at the top of a document, or there are none. -/
def Document.Holds (d : Document) (code name : Text) (ts : List Token) : Prop :=
  ts = [] ∨ ∃ e ∈ d.children.filterMap Entry.element?, e.name = name ∧
    ∃ a b : Nat, e.mark.whole.start = a ∧ e.mark.whole.stop = b ∧ Fill code a b ts

/-- Tokens that fill the node of an element fill the element. -/
theorem Document.holds_of_fill {name : Text} {ts : List Token} {c : Cst}
    (he : Tree.element (.ofText code tags) c ∈
      (Document.ofTree code tags root).children.filterMap Entry.element?)
    (hname : (Tree.element (.ofText code tags) c).name = name)
    (h : Fill code ((ByteOffsets.ofText code).charIndex c.startByte)
      ((ByteOffsets.ofText code).charIndex c.stopByte) ts) :
    (Document.ofTree code tags root).Holds code name ts := by
  refine .inr ⟨_, he, hname, _, _, ?_, ?_, h⟩
  · rw [Tree.mark_element]
    rfl
  · rw [Tree.mark_element]
    rfl

namespace Document.Holds

variable {d : Document} {name name' : Text} {ts us : List Token}

/-- Such tokens are in order and hold the text of their range. -/
theorem fill (h : d.Holds code name ts) : ∃ a b, Fill code a b ts := by
  rcases h with rfl | ⟨e, -, -, a, b, -, -, hfill⟩
  · exact ⟨0, 0, .nil⟩
  · exact ⟨a, b, hfill⟩

/-- **Those of different names are apart.** -/
theorem apart (hroot : root.Nested) (hts : (Document.ofTree code tags root).Holds code name ts)
    (hus : (Document.ofTree code tags root).Holds code name' us) (hname : name ≠ name') :
    ∀ t ∈ ts, ∀ u ∈ us, t.Before u ∨ u.Before t := by
  intro t ht u hu
  rcases hts with rfl | ⟨e, he, rfl, a, b, ha, hb, hts⟩
  · cases ht
  rcases hus with rfl | ⟨e', he', rfl, a', b', ha', hb', hus⟩
  · cases hu
  have ht' := hts.inside t ht
  have hu' := hus.inside u hu
  unfold Token.Before
  rcases apart_of_ne hroot he he' fun heq => hname (congrArg _ heq) with hor | hor
  · left
    omega
  · right
    omega

end Document.Holds

end Markup

namespace Component

section

variable {code : Text} {tags : List Text} {root : Cst}

/-! ## The template -/

/-- **The tokens of the template of a tree** fill its node. -/
theorem fill_readTemplate {fields : List (Text × Value)} {settings : TemplateSettings}
    (hsettings : TemplateSettings.ofFields fields = .ok settings) {parser : ScriptParser}
    {asked : List Text} {c : Cst} (hc : c.Nested)
    (hkind : Markup.elementKinds.contains c.kind = true) {result : Template.Result}
    (h : (readTemplate code (some (Markup.Tree.element (.ofText code tags) c)) parser settings
      asked).result = .ok (some result)) :
    Fill code ((ByteOffsets.ofText code).charIndex c.startByte)
      ((ByteOffsets.ofText code).charIndex c.stopByte) result.store.tokens := by
  have hdelimits := Template.delimits_ofSettings hsettings code parser Template.transformerName
  have hfits : ∀ x ∈ Markup.walkAll [(Markup.Tree.element (.ofText code tags) c).entry],
      x.FitsIn ((ByteOffsets.ofText code).charIndex c.startByte)
        ((ByteOffsets.ofText code).charIndex c.stopByte) := by
    rw [Markup.walkAll, Markup.walkAll, List.append_nil]
    exact Markup.inside_entryOf (.ofText code tags) hc (Markup.entryOf_of_element hkind)
  have hwithin := Template.Context.within_readDocument hdelimits
    (ByteOffsets.charIndex_le code c.stopByte) hfits
  have hcuts := (Template.Context.ofSettings code parser settings
    Template.transformerName).cuts_readDocument [(Markup.Tree.element (.ofText code tags) c).entry]
  unfold readTemplate at h
  dsimp only at h
  split at h
  · obtain ⟨r, hr, hsome⟩ := except_map_eq_ok_iff.1 h
    obtain rfl := Option.some.inj hsome
    obtain ⟨hinside, hraw⟩ := Template.Transformer.ensures_start (hwithin.and hcuts) hr
    exact ⟨r.store.ordered, hinside r.store.ordered, hraw⟩
  · cases h

/-! ## The component -/

/-- **The tokens of the script** of a nested tree fill its element. -/
theorem holds_block {parser : ScriptParser} (hparser : parser.Lexes) {asked : Nat}
    (hroot : root.Nested) {program : Program}
    (h : Script.block code (Regions.ofDocument (.ofTree code tags root)).script parser asked =
      .ok program) :
    (Markup.Document.ofTree code tags root).Holds code "script".toList program.tokens := by
  cases hscript : (Regions.ofDocument (.ofTree code tags root)).script with
  | none =>
    rw [hscript] at h
    exact .inl (Script.tokens_eq_nil_of_none hparser h)
  | some e =>
    have hname := List.find?_some hscript
    have hmem := List.mem_of_find?_eq_some hscript
    obtain ⟨c, hc, -, rfl⟩ := Markup.exists_node hmem
    rw [hscript] at h
    have hfill := Script.fill_block_of_tree hparser (hroot.child hc) h
    exact Markup.Document.holds_of_fill hmem (eq_of_beq hname) hfill

/-- **The tokens of the template** fill its element. -/
theorem holds_readTemplate {fields : List (Text × Value)} {settings : TemplateSettings}
    (hsettings : TemplateSettings.ofFields fields = .ok settings) {parser : ScriptParser}
    {asked : List Text} (hroot : root.Nested) {c : Component}
    (h : (readTemplate code (Regions.ofDocument (.ofTree code tags root)).template parser settings
      asked).result = .ok c.template) :
    (Markup.Document.ofTree code tags root).Holds code "template".toList
      (c.tokensOf .template) := by
  unfold tokensOf
  cases hresult : c.template with
  | none => exact .inl rfl
  | some result =>
    rw [hresult] at h
    cases htemplate : (Regions.ofDocument (.ofTree code tags root)).template with
    | none =>
      rw [htemplate] at h
      cases h
    | some e =>
      have hname := List.find?_some htemplate
      have hmem := List.mem_of_find?_eq_some htemplate
      obtain ⟨c, hc, hkind, rfl⟩ := Markup.exists_node hmem
      rw [htemplate] at h
      have hfill := fill_readTemplate hsettings (hroot.child hc) hkind h
      exact Markup.Document.holds_of_fill hmem (eq_of_beq hname) hfill

/-- The blocks of a document over a nested tree make one stream. -/
theorem streamed_of_readRegions {fields : List (Text × Value)} {settings : Settings}
    (hsettings : Settings.ofFields fields = .ok settings) {parser : ScriptParser}
    (hparser : parser.Lexes) {file : Option Text} (hroot : root.Nested) {c : Component}
    (h : (readRegions code file settings parser (.ofTree code tags root)).result = .ok c) :
    c.Streamed code := by
  obtain ⟨templateFields, hfields⟩ := Settings.exists_template_fields hsettings
  have hmap := map_readRegions code file settings parser (.ofTree code tags root)
  rw [h] at hmap
  obtain ⟨program, hblock, hmap⟩ := except_bind_eq_ok_iff.1 hmap.symm
  obtain ⟨template, htemplate, heq⟩ := except_map_eq_ok_iff.1 hmap
  obtain ⟨rfl, rfl⟩ := Prod.mk.inj heq
  have hscript : (Markup.Document.ofTree code tags root).Holds code _ (c.tokensOf .script) :=
    holds_block hparser hroot hblock
  have htemplate := holds_readTemplate hfields hroot htemplate
  refine streamed_of_apart (fun region => ?_) (fun region => ?_)
    (hscript.apart hroot htemplate (by decide))
  · cases region with
    | script => exact hscript.fill.elim fun _ ⟨_, hfill⟩ => hfill.ordered
    | template => exact htemplate.fill.elim fun _ ⟨_, hfill⟩ => hfill.ordered
  · cases region with
    | script => exact hscript.fill.elim fun _ ⟨_, hfill⟩ => hfill.raw
    | template => exact htemplate.fill.elim fun _ ⟨_, hfill⟩ => hfill.raw

/-- A document that is built is made of the tree that the markup grammar gives. -/
theorem exists_of_build {grammars : Grammars} {d : Markup.Document}
    (h : (Markup.Document.build grammars code tags).result = .ok d) :
    ∃ root, grammars markupLanguage 0 code = .ok root ∧ d = .ofTree code tags root := by
  unfold Markup.Document.build at h
  split at h
  · cases h
  · cases h
  · rename_i root hroot
    exact ⟨root, hroot, (Except.ok.inj h).symm⟩

/-- The markup document is made of a nested tree: the one that is given, or the one
that the markup grammar gives. -/
def FromNested (grammars : Grammars) (code : Text) : Option Markup.Document → Prop
  | none => ∀ root, grammars markupLanguage 0 code = .ok root → root.Nested
  | some d => ∃ tags root, root.Nested ∧ d = .ofTree code tags root

/-- **The tokens of a file are one stream** over its code, whatever is read of it: a
component whose markup tree nests, or a script. -/
theorem streamed_of_read {grammars : Grammars} {parser : ScriptParser} {settings : Settings}
    {fields : List (Text × Value)} {code : Text} {file : Option Text}
    {document : Option Markup.Document} {c : Component}
    (hsettings : Settings.ofFields fields = .ok settings) (hparser : parser.Lexes)
    (hdocument : FromNested grammars code document)
    (h : (read grammars parser settings code file document).result = .ok c) : c.Streamed code := by
  unfold read at h
  dsimp only at h
  split at h
  · split at h
    · cases h
    · rename_i d hd
      obtain ⟨tags, root, hroot, rfl⟩ : ∃ tags root, root.Nested ∧ d = .ofTree code tags root := by
        cases document with
        | some given =>
          obtain ⟨tags, root, hroot, rfl⟩ := hdocument
          cases hd
          exact ⟨tags, root, hroot, rfl⟩
        | none =>
          obtain ⟨root, hroot, rfl⟩ := exists_of_build hd
          exact ⟨_, root, hdocument root hroot, rfl⟩
      exact streamed_of_readRegions hsettings hparser hroot h
  · obtain ⟨program, hprogram, rfl⟩ := except_map_eq_ok_iff.1 h
    have hlexed := hparser 0 code program hprogram
    refine streamed_of_apart (fun region => ?_) (fun region => ?_) fun _ _ _ ht => by cases ht
    · cases region with
      | script => exact hlexed.ordered
      | template => exact .nil
    · cases region with
      | script => exact hlexed.raw
      | template => exact List.forall_mem_nil _

end

/-! ## A component whose template comes first -/

namespace TemplateFirst

/-- A token for every character of a text that is no blank. -/
def tokensFrom (offset : Nat) : Text → List Token
  | [] => []
  | d :: t =>
    if Text.isBlank d then tokensFrom (offset + 1) t
    else ⟨.identifier, [d], [d], ⟨offset, offset + 1, Nat.le_succ offset⟩, ⟨⟨1, 0⟩, ⟨1, 0⟩⟩⟩ ::
      tokensFrom (offset + 1) t

/-- The range of a whole text. -/
def textRange (size : Nat) : Range := ⟨0, size, Nat.zero_le size⟩

/-- The program of these tokens: three of them are a name in parentheses. -/
def program (t : Text) : Program where
  tokens := tokensFrom 0 t
  comments := []
  range := textRange t.length
  body := match tokensFrom 0 t with
    | [opening, name, closing] =>
      let whole : Range := ⟨opening.range.start, max opening.range.start closing.range.stop,
        Nat.le_max_left _ _⟩
      [⟨"expression_statement", whole, opening.location, [],
        [⟨"parenthesized_expression", whole, opening.location, [],
          [⟨"identifier", name.range, name.location, name.raw, []⟩]⟩]⟩]
    | _ => []

/-- The tokens of the characters from an offset on. -/
theorem mem_tokensFrom {text : Text} {offset : Nat} {t : Token}
    (h : t ∈ tokensFrom offset (text.drop offset)) :
    ∃ d, text[t.range.start]? = some d ∧ Text.isBlank d = false ∧ t.raw = [d] ∧
      offset ≤ t.range.start ∧ t.range.stop = t.range.start + 1 := by
  generalize hrest : text.drop offset = rest at h
  induction rest generalizing offset with
  | nil => cases h
  | cons d rest ih =>
    have hd : text[offset]? = some d := by rw [← List.head?_drop, hrest, List.head?_cons]
    have hnext : text.drop (offset + 1) = rest := by
      rw [← List.tail_drop, hrest, List.tail_cons]
    unfold tokensFrom at h
    split at h
    · obtain ⟨d', h1, h2, h3, h4, h5⟩ := ih hnext h
      exact ⟨d', h1, h2, h3, by omega, h5⟩
    · rename_i hvisible
      rcases List.mem_cons.1 h with rfl | h
      · exact ⟨d, hd, by simpa using hvisible, rfl, Nat.le_refl _, rfl⟩
      · obtain ⟨d', h1, h2, h3, h4, h5⟩ := ih hnext h
        exact ⟨d', h1, h2, h3, by omega, h5⟩

/-- They are in order. -/
theorem pairwise_tokensFrom (text : Text) (offset : Nat) :
    (tokensFrom offset (text.drop offset)).Pairwise Token.Before := by
  generalize hrest : text.drop offset = rest
  induction rest generalizing offset with
  | nil => exact .nil
  | cons d rest ih =>
    have hnext : text.drop (offset + 1) = rest := by
      rw [← List.tail_drop, hrest, List.tail_cons]
    unfold tokensFrom
    split
    · exact ih _ hnext
    · refine List.pairwise_cons.2 ⟨fun t ht => ?_, ih _ hnext⟩
      rw [← hnext] at ht
      obtain ⟨-, -, -, -, hle, -⟩ := mem_tokensFrom ht
      exact hle

/-- A reader of these programs finds the tokens of every text. -/
theorem lexes_program : (ScriptParser.ofFunction fun t => .ok (program t)).Lexes := by
  intro asked text p hp
  cases hp
  have hmem : ∀ t ∈ (program text).tokens, _ := fun t (ht : t ∈ tokensFrom 0 (text.drop 0)) =>
    mem_tokensFrom ht
  refine ⟨pairwise_tokensFrom text 0, fun t ht => ?_, fun t ht => ?_, fun t ht => ?_⟩
  · obtain ⟨d, hd, -, -, -, hstop⟩ := hmem t ht
    obtain ⟨hlt, -⟩ := List.getElem?_eq_some_iff.1 hd
    omega
  · obtain ⟨d, hd, hvisible, -⟩ := hmem t ht
    exact ⟨d, hd, hvisible⟩
  · obtain ⟨d, hd, -, hraw, -, hstop⟩ := hmem t ht
    have hle : t.range.start + 1 ≤ text.length := (List.getElem?_eq_some_iff.1 hd).1
    unfold Range.of
    rw [hraw, hstop, Text.slice_natCast hle (Nat.le_add_right _ 1), List.drop_take,
      Nat.add_sub_cancel_left, List.take_one, List.head?_drop, hd]
    rfl

/-- Its code. -/
def code : Text := "<template>{{b}}</template><script>a</script>".toList

/-- A tag from one byte to another. -/
def tag (kind : String) (start stop : Nat) : Cst :=
  ⟨kind, start, stop, true, false, false,
    [⟨"tag_name", start + (if kind = "end_tag" then 2 else 1), stop - 1, true, false, false, []⟩]⟩

/-- The tree of its markup. -/
def root : Cst :=
  ⟨"fragment", 0, 44, true, false, false,
    [⟨"element", 0, 26, true, false, false,
      [tag "start_tag" 0 10, ⟨"text", 10, 15, true, false, false, []⟩, tag "end_tag" 15 26]⟩,
    ⟨"script_element", 26, 44, true, false, false,
      [tag "start_tag" 26 34, ⟨"raw_text", 34, 35, true, false, false, []⟩,
        tag "end_tag" 35 44]⟩]⟩

/-- What it is read as. -/
def reading : Except Failure Component :=
  (read (fun _ _ _ => .ok root) (.ofFunction fun t => .ok (program t)) {} code
    (some "a.vue".toList) none).result

/-- Where the tokens of its blocks start. -/
def starts (region : Region) : List Nat :=
  match region with
  | .script => [26, 34, 35]
  | .template => [0, 1, 9, 10, 12, 13, 15, 17, 25]

/-- Where the tokens of a block of a component start. -/
def startsOf (c : Component) (region : Region) : List Nat :=
  (c.tokensOf region).map (·.range.start)

end TemplateFirst

/-- A component whose script comes second: its tokens are one stream all the same. -/
theorem streamed_templateFirst : ∃ c, TemplateFirst.reading = .ok c ∧
    (∀ region, TemplateFirst.startsOf c region = TemplateFirst.starts region) ∧
      c.Streamed TemplateFirst.code := by
  have hstarts : TemplateFirst.reading.map (fun c =>
      (TemplateFirst.startsOf c .script, TemplateFirst.startsOf c .template)) =
        .ok (TemplateFirst.starts .script, TemplateFirst.starts .template) := by
    decide +kernel
  obtain ⟨c, hok, hstartsOf⟩ := except_map_eq_ok_iff.1 hstarts
  obtain ⟨hscript, htemplate⟩ := Prod.mk.inj hstartsOf
  have hsettings : Settings.ofFields [] = .ok {} := rfl
  have hnested : FromNested (fun _ _ _ => .ok TemplateFirst.root) TemplateFirst.code none := by
    intro root hroot
    obtain rfl := Except.ok.inj hroot
    exact Cst.nested_of_nests (by decide +kernel)
  refine ⟨c, hok, fun region => ?_,
    streamed_of_read hsettings TemplateFirst.lexes_program hnested hok⟩
  cases region with
  | script => exact hscript
  | template => exact htemplate

end Component

end SingleFile
