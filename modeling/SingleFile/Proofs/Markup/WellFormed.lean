import SingleFile.Markup
import SingleFile.Proofs.Text.Run
import SingleFile.Template.Name

/-!
# Markup — well-formed over a source

What a reader of HTML promises about the entries it reports: their marks
lie in order, and the source under the mark of a tag is spelled as tags
are. `Laid` follows the tree and says so for every entry, whatever may
stand between one entry and the next being left to a relation `gap`:
markup may leave source out (`gap` is `≤`) or cover all of it (`=`).
-/

namespace SingleFile

/-- The blanks of ASCII, which separate the parts of a tag. -/
def Text.isAsciiSpace (c : Char) : Bool := c = ' ' || (9 ≤ c.toNat && c.toNat ≤ 13)

namespace Markup

/-! ## Tags -/

/-- What a value without quotes may be made of. -/
def isBareChar (c : Char) : Bool :=
  !(Text.isAsciiSpace c || ['"', '\'', '=', '<', '>'].contains c)

/-- The value of an attribute: between two quotes of a kind, or bare. -/
inductive ValueAt (t : Text) (start stop : Nat) : Prop
  | quoted {q : Char} (quote : q = '"' ∨ q = '\'') (size : start + 2 ≤ stop)
      (opens : t[start]? = some q) (closes : t[stop - 1]? = some q)
  | bare (size : start < stop) (chars : t.Run isBareChar start stop)

/-- An attribute: a name alone, or a name, an equals sign and a value, with
blanks around the sign. -/
inductive AttributeAt (t : Text) (start stop : Nat) : Prop
  | name (size : start < stop) (chars : t.Run Template.isNameChar start stop)
  | assigned {nameStop sign value : Nat} (size : start < nameStop)
      (chars : t.Run Template.isNameChar start nameStop) (before : nameStop ≤ sign)
      (blankBefore : t.Run Text.isAsciiSpace nameStop sign) (equals : t[sign]? = some '=')
      (after : sign + 1 ≤ value) (blankAfter : t.Run Text.isAsciiSpace (sign + 1) value)
      (content : ValueAt t value stop)

/-- Attributes in order, each behind a blank; after them at `last`. -/
inductive AttributesAt (t : Text) : (start : Nat) → List Attribute → (last : Nat) → Prop
  | nil (start : Nat) : AttributesAt t start [] start
  | cons {a : Attribute} {as : List Attribute} {start first stop last : Nat}
      (starts : a.mark.start = first) (stops : a.mark.stop = stop) (space : start < first)
      (blank : t.Run Text.isAsciiSpace start first) (spelled : AttributeAt t first stop)
      (rest : AttributesAt t stop as last) : AttributesAt t start (a :: as) last

/-- A value is not empty and ends inside the text. -/
theorem ValueAt.lt {t : Text} {start stop : Nat} (h : ValueAt t start stop) :
    start < stop ∧ stop ≤ t.length := by
  cases h with
  | quoted _ size _ closes =>
    have := (List.getElem?_eq_some_iff.1 closes).1
    omega
  | bare size chars => exact ⟨size, chars.le_length size⟩

/-- An attribute is not empty. -/
theorem AttributeAt.lt {t : Text} {start stop : Nat} (h : AttributeAt t start stop) :
    start < stop := by
  cases h with
  | name size _ => exact size
  | assigned size _ before _ _ after _ content =>
    have := content.lt
    omega

/-- Attributes do not go back. -/
theorem AttributesAt.le {t : Text} {as : List Attribute} {start last : Nat}
    (h : AttributesAt t start as last) : start ≤ last := by
  induction h with
  | nil => exact Nat.le_refl _
  | cons _ _ space _ spelled _ ih =>
    have := spelled.lt
    omega

/-- A start tag: an angle bracket, a name, attributes, blanks, and a bracket
that a slash may precede. -/
structure StartTagAt (t : Text) (as : List Attribute) (start nameStop last close stop : Nat) :
    Prop where
  opens : t[start]? = some '<'
  size : start + 1 < nameStop
  name : t.Run Template.isNameChar (start + 1) nameStop
  attributes : AttributesAt t nameStop as last
  before : last ≤ close
  blank : t.Run Text.isAsciiSpace last close
  closes : (t[close]? = some '>' ∧ stop = close + 1) ∨
    (t[close]? = some '/' ∧ t[close + 1]? = some '>' ∧ stop = close + 2)

/-- A start tag ends inside the text, after its attributes and blanks. -/
theorem StartTagAt.stop_le {t : Text} {as : List Attribute} {start nameStop last close stop : Nat}
    (h : StartTagAt t as start nameStop last close stop) : close < stop ∧ stop ≤ t.length := by
  rcases h.closes with ⟨hclose, rfl⟩ | ⟨-, hclose, rfl⟩
  · have := (List.getElem?_eq_some_iff.1 hclose).1
    omega
  · have := (List.getElem?_eq_some_iff.1 hclose).1
    omega

/-- **A slash before a bare bracket ends a value**: it is no blank and of no
name, so the attributes go on up to it. -/
theorem StartTagAt.last_of_slash {t : Text} {as : List Attribute}
    {start nameStop last close stop : Nat} (h : StartTagAt t as start nameStop last close stop)
    (hstop : stop = close + 1) (hslash : t[stop - 2]? = some '/') :
    last = close ∧ ∃ x, as.getLast? = some x := by
  -- the slash stands neither among the blanks before the bracket nor in the tag's name
  have hblank := h.blank.outside hslash (by decide)
  have hname := h.name.outside hslash (by decide)
  have hbefore := h.before
  have hsize := h.size
  refine ⟨?_, Option.ne_none_iff_exists'.1 fun hnone => ?_⟩
  · have := h.attributes.le
    omega
  · rw [List.getLast?_eq_none_iff] at hnone
    have hattributes := h.attributes
    rw [hnone] at hattributes
    cases hattributes
    omega

/-- An end tag: an angle bracket and a slash, a name, blanks, and a bracket. -/
structure EndTagAt (t : Text) (start nameStop stop : Nat) : Prop where
  opens : t[start]? = some '<'
  slash : t[start + 1]? = some '/'
  size : start + 2 < nameStop
  name : t.Run Template.isNameChar (start + 2) nameStop
  before : nameStop + 1 ≤ stop
  blank : t.Run Text.isAsciiSpace nameStop (stop - 1)
  closes : t[stop - 1]? = some '>'

namespace ElementMark

/-- The start tag of an element; an element without one counts as its own. -/
def tag (mark : ElementMark) : Mark := mark.startTag.getD mark.whole

/-- The start tag begins the element and ends at `stop`. -/
def OpensAt (mark : ElementMark) (t : Text) (as : List Attribute) (start stop : Nat) : Prop :=
  mark.whole.start = start ∧ mark.tag.start = start ∧ mark.tag.stop = stop ∧
    ∃ nameStop last close, StartTagAt t as start nameStop last close stop

/-- From `start` to `stop` there is the end tag of an element, which ends it,
or nothing when it has none. -/
def ClosesAt (mark : ElementMark) (t : Text) (start stop : Nat) : Prop :=
  mark.whole.stop = stop ∧
    match mark.endTag with
    | none => start = stop
    | some tag => tag.start = start ∧ tag.stop = stop ∧ ∃ nameStop, EndTagAt t start nameStop stop

/-- An end tag does not go back. -/
theorem ClosesAt.le {mark : ElementMark} {t : Text} {start stop : Nat}
    (h : mark.ClosesAt t start stop) : start ≤ stop := by
  obtain ⟨-, h⟩ := h
  split at h
  · exact Nat.le_of_eq h
  · obtain ⟨-, -, nameStop, ht⟩ := h
    have := ht.size
    have := ht.before
    omega

end ElementMark

/-! ## Entries -/

mutual
/-- An entry reaches from `start` to `stop`, and what is in it is laid out
between the tags. -/
def Entry.SpannedBy (t : Text) (gap : Nat → Nat → Prop) (start stop : Nat) : Entry → Prop
  | .text m | .comment _ m | .other _ m => m.start = start ∧ m.stop = stop ∧ start ≤ stop
  | .element _ mark as children content =>
    ∃ first last, mark.OpensAt t as start first ∧
      (match content with
        | some entries => Laid t gap first entries
        | none => Laid t gap first children) last ∧
      mark.ClosesAt t last stop
  | .fragment _ | .document _ => False

/-- **Entries laid out in order** from `start` to `stop`. -/
def Laid (t : Text) (gap : Nat → Nat → Prop) (start : Nat) : List Entry → (stop : Nat) → Prop
  | [], stop => gap start stop
  | e :: es, stop =>
    ∃ first last, gap start first ∧ e.SpannedBy t gap first last ∧ Laid t gap last es stop
end

/-- A start tag does not go back. -/
theorem ElementMark.OpensAt.le {mark : ElementMark} {t : Text} {as : List Attribute}
    {start stop : Nat} (h : mark.OpensAt t as start stop) : start ≤ stop := by
  obtain ⟨-, -, -, nameStop, last, close, ht⟩ := h
  have := ht.size
  have := ht.attributes.le
  have := ht.before
  rcases ht.closes with ⟨-, h⟩ | ⟨-, -, h⟩ <;> omega

variable {t : Text} {gap : Nat → Nat → Prop}

mutual
/-- An entry does not go back. -/
theorem Entry.SpannedBy.le (hgap : ∀ a b, gap a b → a ≤ b) : ∀ (e : Entry) {start stop : Nat},
    e.SpannedBy t gap start stop → start ≤ stop
  | .text _, _, _, h | .comment _ _, _, _, h | .other _ _, _, _, h => by
    rw [Entry.SpannedBy] at h
    exact h.2.2
  | .element _ _ _ children content, _, _, h => by
    rw [Entry.SpannedBy] at h
    obtain ⟨first, last, hopen, hinner, hclose⟩ := h
    have hle : first ≤ last := by
      cases content with
      | some entries => exact Laid.le hgap entries hinner
      | none => exact Laid.le hgap children hinner
    exact Nat.le_trans hopen.le (Nat.le_trans hle hclose.le)
  | .fragment _, _, _, h | .document _, _, _, h => by
    rw [Entry.SpannedBy] at h
    exact h.elim

/-- Nor do several. -/
theorem Laid.le (hgap : ∀ a b, gap a b → a ≤ b) : ∀ (entries : List Entry) {start stop : Nat},
    Laid t gap start entries stop → start ≤ stop
  | [], _, _, h => by
    rw [Laid] at h
    exact hgap _ _ h
  | e :: es, _, _, h => by
    rw [Laid] at h
    obtain ⟨first, last, hfirst, he, hes⟩ := h
    exact Nat.le_trans (hgap _ _ hfirst)
      (Nat.le_trans (Entry.SpannedBy.le hgap e he) (Laid.le hgap es hes))
end

/-- An entry is marked where it stands. -/
theorem Entry.SpannedBy.mark? {e : Entry} {start stop : Nat} (h : e.SpannedBy t gap start stop) :
    ∃ m, e.mark? = some m ∧ m.start = start ∧ m.stop = stop := by
  cases e with
  | text m | comment _ m | other _ m =>
    rw [Entry.SpannedBy] at h
    exact ⟨m, rfl, h.1, h.2.1⟩
  | element _ mark _ _ _ =>
    rw [Entry.SpannedBy] at h
    obtain ⟨first, last, hopen, -, hclose⟩ := h
    exact ⟨mark.whole, rfl, hopen.1, hclose.1⟩
  | fragment _ | document _ =>
    rw [Entry.SpannedBy] at h
    exact h.elim

/-- **The marks of entries laid out in order** lie where the entries do. -/
theorem Laid.marks (hgap : ∀ a b, gap a b → a ≤ b) {entries : List Entry} {start stop : Nat}
    (h : Laid t gap start entries stop) :
    ∀ m ∈ entries.filterMap Entry.mark?,
      (start : Int) ≤ m.start ∧ m.start ≤ m.stop ∧ m.stop ≤ stop := by
  induction entries generalizing start with
  | nil => exact fun m hm => absurd hm List.not_mem_nil
  | cons e es ih =>
    rw [Laid] at h
    obtain ⟨first, last, hfirst, he, hes⟩ := h
    obtain ⟨m, hm, hstart, hstop⟩ := he.mark?
    have h1 := hgap _ _ hfirst
    have h2 := Entry.SpannedBy.le hgap e he
    have h3 := Laid.le hgap es hes
    rw [List.filterMap_cons_some hm]
    refine List.forall_mem_cons.2 ⟨by omega, fun m' hm' => ?_⟩
    have := ih hes m' hm'
    omega

/-- **Well-formed markup** over a part of a source. -/
structure WellFormed (t : Text) (gap : Nat → Nat → Prop) (entries : List Entry)
    (start stop : Nat) : Prop where
  laid : Laid t gap start entries stop
  inside : stop ≤ t.length

/-! ## What is read of it -/

mutual
/-- An entry and all that is read below it. -/
def Entry.walk : Entry → List Entry
  | .text m => [.text m]
  | .comment data m => [.comment data m]
  | .other name m => [.other name m]
  | .element name mark as children content =>
    .element name mark as children content :: match content with
      | some entries => walkAll entries
      | none => walkAll children
  | .fragment children => [.fragment children]
  | .document children => [.document children]

/-- Several entries and all that is read below them. -/
def walkAll : List Entry → List Entry
  | [] => []
  | e :: es => e.walk ++ walkAll es
end

/-- The elements among entries and below them. -/
def elements (entries : List Entry) : List Element := (walkAll entries).filterMap Entry.element?

/-- The mark of an entry that is skipped. -/
def Entry.skipped? : Entry → Option Mark
  | .other _ m => some m
  | _ => none

/-- The marks of the entries that are skipped, among entries and below them. -/
def skipped (entries : List Entry) : List Mark := (walkAll entries).filterMap Entry.skipped?

/-- The elements of one entry and of more. -/
theorem elements_cons (e : Entry) (es : List Entry) :
    elements (e :: es) = e.walk.filterMap Entry.element? ++ elements es := by
  simp only [elements, walkAll, List.filterMap_append]

/-- The skipped marks of one entry and of more. -/
theorem skipped_cons (e : Entry) (es : List Entry) :
    skipped (e :: es) = e.walk.filterMap Entry.skipped? ++ skipped es := by
  simp only [skipped, walkAll, List.filterMap_append]

/-- **The slash before the bracket belongs to a value**: the last attribute of
an element ends just before the bracket, in a slash. -/
def Element.SlashEnded (e : Element) (t : Text) (a : Attribute) : Prop :=
  e.attributes.getLast? = some a ∧ a.mark.stop + 1 = e.mark.tag.stop ∧
    t.at? (a.mark.stop - 1) = some '/'

end Markup

end SingleFile
