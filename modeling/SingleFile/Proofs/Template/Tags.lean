import SingleFile.Proofs.Template.Attributes

/-!
# Tags — the pieces of start tags and end tags

A start tag comes to its bracket, its name, its attributes and the
bracket that closes it, with a slash when one stands before its last
character. That slash may be the last character of a value, and then the
value and the bracket both claim it.
-/

namespace SingleFile

namespace Template

namespace Context

variable {c : Context} {wide : Bool} {free : Nat → Prop}

/-- After the name of a tag comes something else. -/
theorem exists_after_name {as : List Markup.Attribute} {start stop last close nameEnd : Nat}
    (h : Markup.StartTagAt c.text as start nameEnd last close stop) :
    ∃ d, c.text[nameEnd]? = some d ∧ isNameChar d = false := by
  have hspace : ∀ {x y}, c.text.Run Text.isAsciiSpace x y → x < y →
      ∃ d, c.text[x]? = some d ∧ isNameChar d = false := by
    intro x y hrun hxy
    obtain ⟨d, hd, hs⟩ := hrun x (Nat.le_refl x) hxy
    exact ⟨d, hd, by simpa [NoName] using noName_of_isAsciiSpace hs⟩
  cases h.attributes with
  | cons _ _ space blank _ _ => exact hspace blank space
  | nil =>
    rcases Nat.lt_or_ge last close with hlt | hge
    · exact hspace h.blank hlt
    · rw [show last = close from Nat.le_antisymm h.before hge]
      rcases h.closes with ⟨hclose, -⟩ | ⟨hclose, -⟩ <;> exact ⟨_, hclose, by decide⟩

/-- **The tokens of an element are apart** as far as its start tag goes: no
value ends in the slash that the closing bracket takes for its own, or
none that claims it. -/
def Fits (c : Context) (wide : Bool) (e : Markup.Element) : Prop :=
  ∀ x, e.SlashEnded c.text x → wide = false ∧ c.rules.isDirective x.name = true

/-- The reading of a start tag, by the slash that it looks for. -/
theorem openingTag_eq {mark : Markup.ElementMark} {as : List Markup.Attribute} {start stop : Nat}
    {d : Char} (hstart : mark.tag.start = start) (hstop : mark.tag.stop = stop)
    (h : start + 2 ≤ stop) (hd : c.text[stop - 2]? = some d) :
    c.openingTag mark as =
      c.punctuator start (start + 1) >>= fun _ => c.tagName (start + 1) stop >>= fun _ =>
        c.attributes as >>= fun attributes =>
          c.punctuator (stop - (if d = '/' then 2 else 1 : Nat) : Nat) stop >>= fun _ =>
            c.place start stop >>= fun p => pure (⟨p, d == '/'⟩, attributes) := by
  have hchar : (if 2 ≤ (stop : Int) - start then (charAt c.text (stop - 2)).map (· == '/')
      else .ok false) = .ok (d == '/') := by
    rw [if_pos (by omega), show (stop : Int) - 2 = (stop - 2 : Nat) by omega, charAt_natCast hd]
    rfl
  have hslash : ((stop : Int) - if (d == '/') = true then 2 else 1) =
      (stop - (if d = '/' then 2 else 1 : Nat) : Nat) := by
    simp only [beq_iff_eq]
    split <;> omega
  have hstart' : (mark.startTag.getD mark.whole).start = start := hstart
  have hstop' : (mark.startTag.getD mark.whole).stop = stop := hstop
  unfold openingTag
  simp only [hstart', hstop', hchar, Emission.ofExcept_ok, pure_bind, hslash]

/-- A slash-ended value ends the attributes, in a slash just before the bracket. -/
theorem slashEnded_iff {e : Markup.Element} {x : Markup.Attribute} {last stop : Nat}
    (hstop : e.mark.tag.stop = stop) (hpos : 0 < last)
    (hlast : ∀ y, e.attributes.getLast? = some y → y.mark.stop = last) :
    e.SlashEnded c.text x ↔
      e.attributes.getLast? = some x ∧ last + 1 = stop ∧ c.text[last - 1]? = some '/' := by
  unfold Markup.Element.SlashEnded
  refine and_congr_right fun hx => ?_
  rw [hstop, hlast x hx, show (last : Int) - 1 = (last - 1 : Nat) by omega, Text.at?_natCast]
  refine and_congr_left fun _ => ?_
  omega

/-- The name of a start tag. -/
theorem tagName_eq {as : List Markup.Attribute} {start nameEnd last close stop : Nat}
    (ht : Markup.StartTagAt c.text as start nameEnd last close stop) (hle : nameEnd < stop) :
    c.tagName (start + 1 : Nat) stop = c.named (start + 1 : Nat) nameEnd := by
  have hsize := ht.size
  unfold tagName
  rw [nameStart_eq ht.name hsize]
  simp only [Emission.ofExcept_ok, pure_bind]
  -- the first character is known to be of the name, so the search goes on from the second
  rw [show min (((start + 1 : Nat) : Int) + 1) stop = (start + 2 : Nat) by omega,
    nameRest_eq (ht.name.mono (by omega) (Nat.le_refl _)) (by omega) (by omega)
      fun _ => exists_after_name ht]
  simp only [Emission.ofExcept_ok, pure_bind]

/-- The pieces that begin a start tag: its bracket and its name. -/
def leadPieces (start nameEnd : Nat) : List Piece :=
  tokenPieces .punctuator start (start + 1) ++ tokenPieces .htmlIdentifier (start + 1) nameEnd

/-- **What a start tag comes to**, when its attributes come to some pieces. -/
theorem spells_openingTag (hc : c.Indexed) {mark : Markup.ElementMark} {as : List Markup.Attribute}
    {start nameEnd last close stop : Nat} {d : Char} {ps : List Piece}
    (hstart : mark.tag.start = start) (hstop : mark.tag.stop = stop)
    (ht : Markup.StartTagAt c.text as start nameEnd last close stop) (hle : nameEnd < stop)
    (hlen : stop ≤ c.text.length) (hd : c.text[stop - 2]? = some d)
    (hps : Spells c (c.attributes as) ps) :
    Spells c (c.openingTag mark as)
      (leadPieces start nameEnd ++
        (ps ++ tokenPieces .punctuator (stop - if d = '/' then 2 else 1) stop)) := by
  have hsize := ht.size
  obtain ⟨p, hp⟩ := place_eq hc (show start ≤ stop by omega) hlen
  rw [openingTag_eq hstart hstop (by omega) hd, leadPieces, List.append_assoc,
    show (start : Int) + 1 = (start + 1 : Nat) by omega, tagName_eq ht hle, hp]
  exact (spells_token _ _ _).bind fun _ =>
    (spells_named hc (Nat.le_of_lt hsize) (ht.name.le_length hsize)).bind fun _ =>
      hps.bind fun _ => (spells_token _ _ _).bind_pure _

/-- Bracket and name are laid out from the one to the end of the other. -/
theorem layout_leadPieces {start nameEnd : Nat} (hsize : start + 1 < nameEnd)
    (hlen : nameEnd ≤ c.text.length) :
    Layout wide c.text free start nameEnd True (leadPieces start nameEnd) :=
  (layout_tokenPieces _ (by omega) (by omega)).append_true (layout_tokenPieces _ (by omega) hlen)

/-- **A closing bracket that takes the last character of a value**, a slash, for
its own clashes with the value, unless the value claims nothing. -/
theorem layout_slashEnded {directive : Bool} {start mid last : Nat} {ls ps : List Piece}
    (hlead : Layout wide c.text free start mid True ls)
    (hlast : c.AttributeLayout wide free directive mid last ps)
    (hlt : start < last) (hslash : c.text[last - 1]? = some '/')
    (hlen : last + 1 ≤ c.text.length) :
    Layout wide c.text free start (last + 1) (wide = false ∧ directive = true)
      (ls ++ (ps ++ tokenPieces .punctuator (last - 1) (last + 1))) := by
  have hend := hlast.slash hslash
  have hbracket : Layout wide c.text free (last - 1) (last + 1) True
      (tokenPieces .punctuator (last - 1) (last + 1)) := layout_tokenPieces _ (by omega) hlen
  by_cases hnarrow : wide = false ∧ directive = true
  · -- the value claims nothing, so the attributes may as well end before the slash
    rw [if_pos hnarrow] at hend
    have hshort := hlast.layout.shrink hend.1 (by omega) hend.2
    exact (hlead.append_true (hshort.append_true hbracket)).congr (iff_of_true trivial hnarrow)
  · rw [if_neg hnarrow] at hend
    have hall := hlead.append_true hlast.layout
    rw [← List.append_assoc]
    refine (hall.overlap hbracket (by omega) (by omega) (by omega) hslash ?_ ?_).congr
      (iff_of_false not_false hnarrow)
    · rw [spans_append]
      exact hend.imp fun s hs => ⟨List.mem_append_right _ hs.1, hs.2⟩
    · refine ⟨(last - 1, last + 1), ?_, decide_eq_true ⟨by omega, by omega⟩⟩
      simp [tokenPieces, show last - 1 < last + 1 by omega, spans, Piece.span?]

/-- **A start tag.** Its tokens are apart unless its last value ends in the
slash that the closing bracket takes. -/
theorem exists_spells_openingTag (hc : c.Indexed) (hf : c.Frees wide free) {e : Markup.Element}
    {start stop : Nat} (h : e.mark.OpensAt c.text e.attributes start stop) :
    ∃ ps, Spells c (c.openingTag e.mark e.attributes) ps ∧
      Layout wide c.text free start stop (c.Fits wide e) ps := by
  obtain ⟨-, hstart, hstop, nameEnd, last, close, ht⟩ := h
  have hroom : Room c.text (start + 1) := ⟨start, Nat.lt_succ_self _, '<', ht.opens, by decide⟩
  have hsize := ht.size
  obtain ⟨ps, hps, hattributes, hlast⟩ :=
    exists_spells_attributes hc hf (hroom.mono (by omega)) ht.attributes
  have hmid := hattributes.ordered
  have hclose := ht.before
  obtain ⟨hcloses, hlen⟩ := ht.stop_le
  have hended := fun x => slashEnded_iff (c := c) (x := x) hstop (show 0 < last by omega)
    fun y hy => (hlast y hy).1
  obtain ⟨d, hd⟩ : ∃ d, c.text[stop - 2]? = some d :=
    ⟨_, List.getElem?_eq_getElem (show stop - 2 < c.text.length by omega)⟩
  have hlead : Layout wide c.text free start nameEnd True (leadPieces start nameEnd) :=
    layout_leadPieces hsize (by omega)
  refine ⟨_, spells_openingTag hc hstart hstop ht (by omega) hlen hd hps, ?_⟩
  -- the bracket after the attributes and the blanks behind them, when it takes no more than its own
  have hbracket : close = stop - (if d = '/' then 2 else 1) →
      Layout wide c.text free start stop True (leadPieces start nameEnd ++
        (ps ++ tokenPieces .punctuator (stop - if d = '/' then 2 else 1) stop)) := by
    intro heq
    rw [← heq]
    exact hlead.append_true (hattributes.append_true
      ((hf.layout_blank hclose (ht.blank.imp fun d => isBlank_of_isAsciiSpace)).append_true
        (layout_tokenPieces _ (by omega) hlen)))
  rcases ht.closes with ⟨-, hclosed⟩ | ⟨hslash, -, hclosed⟩
  · by_cases hdslash : d = '/'
    · -- the slash is the last character of a value
      subst hdslash
      obtain ⟨rfl, y, hy⟩ := ht.last_of_slash hclosed hd
      subst hclosed
      obtain ⟨-, hlayout⟩ := hlast y hy
      have hslash : c.text[last - 1]? = some '/' := hd
      rw [if_pos rfl, show last + 1 - 2 = last - 1 by omega]
      refine (layout_slashEnded hlead hlayout (by omega) hslash hlen).congr
        ⟨fun hnarrow x hx => ?_, fun hfits => hfits y ((hended y).2 ⟨hy, rfl, hslash⟩)⟩
      rw [((hended x).1 hx).1, Option.some.injEq] at hy
      rwa [hy]
    · refine (hbracket (by rw [if_neg hdslash]; omega)).congr (iff_of_true trivial fun x hx => ?_)
      obtain ⟨-, h1, h2⟩ := (hended x).1 hx
      rw [show last - 1 = stop - 2 by omega, hd, Option.some.injEq] at h2
      exact absurd h2 hdslash
  · have hds : d = '/' := by
      rw [show stop - 2 = close by omega, hslash] at hd
      exact (Option.some.inj hd).symm
    refine (hbracket (by rw [if_pos hds]; omega)).congr (iff_of_true trivial fun x hx => ?_)
    obtain ⟨-, h1, -⟩ := (hended x).1 hx
    omega

/-- **An end tag**, if there is one. -/
theorem exists_spells_closingTag (hc : c.Indexed) (hf : c.Frees wide free)
    {mark : Markup.ElementMark} {start stop : Nat} (h : mark.ClosesAt c.text start stop)
    (hlen : stop ≤ c.text.length) :
    ∃ ps, Spells c (c.closingTag mark) ps ∧ Layout wide c.text free start stop True ps := by
  obtain ⟨-, h⟩ := h
  unfold closingTag
  cases hend : mark.endTag with
  | none =>
    rw [hend] at h
    dsimp only at h
    subst h
    exact ⟨[], spells_pure _, .gap (Nat.le_refl _) fun o h1 h2 => by omega⟩
  | some tag =>
    rw [hend] at h
    obtain ⟨hstart, hstop, nameEnd, ht⟩ := h
    have hsize := ht.size
    have hbefore := ht.before
    obtain ⟨p, hp⟩ := place_eq hc (show start ≤ stop by omega) hlen
    have hname : c.nameBetween (start + 2 : Nat) (stop - 1 : Nat) stop =
        c.named (start + 2 : Nat) nameEnd :=
      nameBetween_eq hsize ht.name (by omega) (ht.blank.imp fun d => noName_of_isAsciiSpace)
    refine ⟨tokenPieces .punctuator start (start + 2) ++
      (tokenPieces .htmlIdentifier (start + 2) nameEnd ++
        tokenPieces .punctuator (stop - 1) stop), ?_, ?_⟩
    · dsimp only
      rw [hstart, hstop, show (start : Int) + 2 = (start + 2 : Nat) by omega,
        show (stop : Int) - 1 = (stop - 1 : Nat) by omega, hname, hp]
      exact (spells_token _ _ _).bind fun _ =>
        (spells_named hc (by omega) (by omega)).bind fun _ => (spells_token _ _ _).bind_pure _
    · exact (layout_tokenPieces _ (by omega) (by omega)).append_true
        ((layout_tokenPieces _ (by omega) (by omega)).append_true
          ((hf.layout_blank (by omega) (ht.blank.imp fun d => isBlank_of_isAsciiSpace)).append_true
            (layout_tokenPieces _ (by omega) hlen)))

end Context

end Template

end SingleFile
