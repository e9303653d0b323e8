import SingleFile.Proofs.Expression.Anchoring
import SingleFile.Proofs.Markup.WellFormed
import SingleFile.Proofs.Template.Piece
import SingleFile.Proofs.Template.Scan

/-!
# Attributes — the pieces of names, values and expressions

Each scanner of the template reader finds the edge that the spelling of
well-formed markup puts there. An attribute is followed from its spelling
to the pieces it comes to, and to their layout; so is an expression
between delimiters, which attributes and runs of text have in common.
-/

namespace SingleFile

namespace Template

namespace Context

variable {c : Context} {wide : Bool} {free : Nat → Prop} {a b : Nat}

/-- The reader looks positions up in its own source. -/
def Indexed (c : Context) : Prop := c.reader.index = .ofText c.text

/-- What a reading may leave out: blanks, and anything when only tokens count. -/
structure Frees (c : Context) (wide : Bool) (free : Nat → Prop) : Prop where
  blank : ∀ o d, c.text[o]? = some d → Text.isBlank d = true → free o
  narrow : wide = false → ∀ o, free o

/-- Blanks may be left out. -/
theorem Frees.layout_blank (hf : c.Frees wide free) (h : a ≤ b) (hrun : c.text.Run Text.isBlank a b) :
    Layout wide c.text free a b True [] :=
  .gap h fun o h1 h2 => by
    obtain ⟨d, hd, hb⟩ := hrun o h1 h2
    exact hf.blank o d hd hb

/-- Blanks of ASCII are blank. -/
theorem isBlank_of_isAsciiSpace {d : Char} (h : Text.isAsciiSpace d = true) :
    Text.isBlank d = true := by
  simp only [Text.isAsciiSpace, Bool.or_eq_true, decide_eq_true_eq, Bool.and_eq_true] at h
  rcases h with rfl | ⟨h1, h2⟩
  · decide
  · simp [Text.isBlank, Text.isWhiteSpace, Text.inRanges, Text.whiteSpaceRanges, h1, h2]

/-- They are of no name. -/
theorem noName_of_isAsciiSpace {d : Char} (h : Text.isAsciiSpace d = true) : NoName d = true := by
  simp only [Text.isAsciiSpace, Bool.or_eq_true, decide_eq_true_eq, Bool.and_eq_true] at h
  rcases h with rfl | ⟨h1, h2⟩
  · decide
  · have : d.toNat ≤ 31 := by omega
    simp [NoName, isNameChar, isDelimiter, this]

/-! ## Places and tokens -/

/-- A place inside the source is found. -/
theorem place_eq (hc : c.Indexed) (h : a ≤ b) (hb : b ≤ c.text.length) :
    ∃ p, c.place a b = pure p := by
  unfold place
  rw [Range.ofBounds_natCast h, hc, LineIndex.location_ofText (Nat.le_trans h hb) hb]
  exact ⟨_, rfl⟩

/-- The token between two offsets, if there is anything between them. -/
def tokenPieces (kind : TokenKind) (start stop : Nat) : List Piece :=
  if start < stop then [.token kind start stop] else []

/-- A token between two offsets in order. -/
theorem spells_token (kind : TokenKind) (a b : Nat) :
    Spells c (c.token kind a b) (tokenPieces kind a b) := by
  unfold tokenPieces
  by_cases h : a < b
  · rw [if_pos h]
    exact spells_emission (.token kind a b)
  · rw [if_neg h]
    unfold token
    rw [if_neg (by omega)]
    exact spells_pure ()

/-- It claims all that is between them. -/
theorem layout_tokenPieces (kind : TokenKind) (h : a ≤ b) (hb : b ≤ c.text.length) :
    Layout wide c.text free a b True (tokenPieces kind a b) := by
  unfold tokenPieces
  by_cases hab : a < b
  · rw [if_pos hab]
    exact .one rfl h ⟨hab, hb⟩
  · rw [if_neg hab]
    exact .gap h fun o h1 h2 => by omega

/-- A name of a given extent. -/
theorem spells_named (hc : c.Indexed) (h : a ≤ b) (hb : b ≤ c.text.length) :
    Spells c (c.named a b) (tokenPieces .htmlIdentifier a b) := by
  obtain ⟨p, hp⟩ := place_eq hc h hb
  unfold named
  rw [hp]
  exact (spells_token _ a b).bind_pure _

/-! ## Expressions -/

/-- Whether a character is blank, asked of the source. -/
theorem notBlank_eq {d : Char} {o : Nat} (hd : c.text[o]? = some d) :
    (do return !Text.isBlank (← charAt c.text o) : Except Failure Bool) =
      .ok !Text.isBlank d := by
  rw [charAt_natCast hd]
  rfl

/-- The blanks before some code are skipped. -/
theorem skipBlanks_eq (h : a ≤ b) (hb : b ≤ c.text.length) :
    skipUp (fun o => do return !Text.isBlank (← charAt c.text o)) a ((b : Int) - a).toNat =
      .ok ((codeSpan c.text a b).1 : Int) := by
  obtain ⟨h1, h2, h3, hlead, -, hfirst, -⟩ := codeSpan_spec h hb
  refine skipUp_eq h1 (by omega) (fun o ho1 ho2 => ?_) fun ho => ?_
  · obtain ⟨d, hd, hblank⟩ := hlead o ho1 ho2
    rw [notBlank_eq hd, hblank]
    rfl
  · obtain ⟨d, hd, hblank⟩ := hfirst (by omega)
    rw [notBlank_eq hd, hblank]
    rfl

/-- **The code between two offsets** is what is left without blanks. -/
theorem codeBounds_eq (h : a ≤ b) (hb : b ≤ c.text.length) :
    c.codeBounds a b =
      .ok (((codeSpan c.text a b).1 : Int), ((codeSpan c.text a b).2 : Int)) := by
  obtain ⟨h1, h2, h3, -, htrail, -, hlast⟩ := codeSpan_spec h hb
  have hdown : skipDown (fun o => do return !Text.isBlank (← charAt c.text o)) b
      ((b : Int) - (codeSpan c.text a b).1).toNat = .ok ((codeSpan c.text a b).2 : Int) := by
    refine skipDown_eq h3 (by omega) (fun o ho1 ho2 => ?_) fun ho => ⟨by omega, ?_⟩
    · obtain ⟨d, hd, hblank⟩ := htrail o ho1 ho2
      rw [notBlank_eq hd, hblank]
      rfl
    · obtain ⟨d, hd, hblank⟩ := hlast (by omega)
      rw [notBlank_eq hd, hblank]
      rfl
  exact except_bind_eq_ok_iff.2 ⟨_, skipBlanks_eq h hb, except_bind_eq_ok_iff.2 ⟨_, hdown, rfl⟩⟩

/-- The pieces of an expression between delimiters. -/
def containerPieces (c : Context) (start stop openSize closeSize : Nat) : List Piece :=
  tokenPieces .punctuator start (start + openSize) ++
    (.code (codeSpan c.text (start + openSize) (stop - closeSize)).1
      (codeSpan c.text (start + openSize) (stop - closeSize)).2 ::
      tokenPieces .punctuator (stop - closeSize) stop)

/-- An expression is its delimiters and the code between them. -/
theorem spells_container (hc : c.Indexed) {openSize closeSize : Nat}
    (h : a + openSize + closeSize ≤ b) (hb : b ≤ c.text.length) :
    Spells c (c.container a b openSize closeSize) (c.containerPieces a b openSize closeSize) := by
  obtain ⟨p, hp⟩ := place_eq hc (show a ≤ b by omega) hb
  have hread : ∀ first last : Nat, Spells c (c.reader.read first last) [.code first last] := by
    intro first last
    change _ = (c.reader.read first last >>= fun _ => pure ()) >>= fun _ => pure ()
    simp only [bind_assoc, pure_bind]
  unfold container containerPieces punctuator
  rw [show (a : Int) + openSize = (a + openSize : Nat) by omega,
    show (b : Int) - closeSize = (b - closeSize : Nat) by omega,
    codeBounds_eq (show a + openSize ≤ b - closeSize by omega) (by omega), hp]
  refine (spells_token _ _ _).bind fun _ => ?_
  simp only [Emission.ofExcept_ok, pure_bind]
  exact Spells.bind (hread _ _) fun _ => (spells_token _ _ _).bind_pure _

/-- Code claims what is left of it without blanks. -/
theorem layout_code (hf : c.Frees wide free) (h : a ≤ b) (hb : b ≤ c.text.length)
    (hroom : Room c.text a) :
    Layout wide c.text free a b True
      [.code (codeSpan c.text a b).1 (codeSpan c.text a b).2] := by
  obtain ⟨h1, h2, h3, hlead, htrail, -⟩ := codeSpan_spec h hb
  have hcode : Layout wide c.text free (codeSpan c.text a b).1 (codeSpan c.text a b).2 True
      [.code (codeSpan c.text a b).1 (codeSpan c.text a b).2] :=
    .one_wide rfl h2 ⟨h2, Nat.le_trans h3 hb, hroom.mono h1⟩ hf.narrow
  exact (hf.layout_blank h1 hlead).append_true (hcode.append_true (hf.layout_blank h3 htrail))

/-- An expression claims its delimiters and its code. -/
theorem layout_container (hf : c.Frees wide free) {openSize closeSize : Nat}
    (h : a + openSize + closeSize ≤ b) (hb : b ≤ c.text.length)
    (hroom : Room c.text (a + openSize)) :
    Layout wide c.text free a b True (c.containerPieces a b openSize closeSize) := by
  refine (layout_tokenPieces _ (by omega) (by omega)).append_true ?_
  exact (layout_code hf (by omega) (by omega) hroom).append_true
    (layout_tokenPieces _ (by omega) hb)

/-! ## Attributes -/

/-- The reading of an attribute's name, by whether it is a directive. -/
def readKey (c : Context) (directive : Bool) (start sign stop : Int) : Emission Key :=
  if directive then do
    let last ← Emission.ofExcept (nameStop c.text sign start)
    pure (Key.directive (← c.directiveKey start last))
  else do
    pure (Key.identifier (← c.nameBetween start sign stop))

/-- The name between two offsets, when it begins at the first and nothing of a
name follows it. -/
theorem nameBetween_eq {start stop sign limit : Nat} (hsize : start < stop)
    (hname : c.text.Run isNameChar start stop) (hsign : stop ≤ sign)
    (hgap : c.text.Run NoName stop sign) :
    c.nameBetween start sign limit = c.named start stop := by
  unfold nameBetween
  rw [nameStart_eq hname hsize]
  simp only [Emission.ofExcept_ok, pure_bind]
  rw [nameStop_eq hname hsize hsign hgap]
  simp only [Emission.ofExcept_ok, pure_bind, show max (start : Int) stop = stop by omega]

/-- An attribute's name is one token in either case. -/
theorem spells_readKey (hc : c.Indexed) (directive : Bool) {start stop sign limit : Nat}
    (hsize : start < stop) (hname : c.text.Run isNameChar start stop) (hsign : stop ≤ sign)
    (hgap : c.text.Run NoName stop sign) :
    Spells c (c.readKey directive start sign limit) (tokenPieces .htmlIdentifier start stop) := by
  have hlen := hname.le_length hsize
  unfold readKey
  cases directive with
  | true =>
    obtain ⟨p, hp⟩ := place_eq hc (Nat.le_of_lt hsize) hlen
    simp only [if_true, nameStop_eq hname hsize hsign hgap, Emission.ofExcept_ok, pure_bind,
      directiveKey, hp]
    rw [bind_assoc]
    exact (spells_token _ _ _).bind_pure _
  | false =>
    rw [if_neg Bool.false_ne_true, nameBetween_eq hsize hname hsign hgap]
    exact (spells_named hc (Nat.le_of_lt hsize) hlen).bind_pure _

/-- The pieces of the value of an attribute, which begins after blanks and may
have quotes of a given size. -/
def contentPieces (c : Context) (directive : Bool) (start stop size : Nat) : List Piece :=
  if directive then c.containerPieces start stop size size
  else tokenPieces .htmlAttributeValue start stop

/-- **Where a value begins**: after blanks, and at the first character that is not
one. -/
theorem codeSpan_fst_of_run {start value stop : Nat} (hvalue : start ≤ value)
    (hblank : c.text.Run Text.isAsciiSpace start value) (hlt : value < stop)
    (hlen : stop ≤ c.text.length) :
    value ≤ (codeSpan c.text start stop).1 ∧
      ∀ o d, start ≤ o → c.text[o]? = some d → Text.isBlank d = false →
        (codeSpan c.text start stop).1 ≤ o := by
  obtain ⟨h1, h2, h3, hlead, -, hfirst, -⟩ :=
    codeSpan_spec (show start ≤ stop by omega) hlen
  constructor
  · refine Classical.byContradiction fun hnot => ?_
    obtain ⟨d, hd, hmark⟩ := hfirst (by omega)
    have := (hblank.imp fun d => isBlank_of_isAsciiSpace).outside hd hmark
    omega
  · intro o d ho hd hmark
    have := hlead.outside hd hmark
    omega

/-- **What the quotes of a value are.** A value that ends in a slash has none. -/
theorem exists_quoteSize {start value stop : Nat} (hvalue : start ≤ value)
    (hblank : c.text.Run Text.isAsciiSpace start value) (h : Markup.ValueAt c.text value stop) :
    ∃ size : Nat, c.quoteSize (codeSpan c.text start stop).1 stop = .ok size ∧
      (codeSpan c.text start stop).1 + size + size ≤ stop ∧
      (c.text[stop - 1]? = some '/' → size = 0 ∧ (codeSpan c.text start stop).1 < stop) := by
  obtain ⟨hlt, hlen⟩ := h.lt
  obtain ⟨hfrom, hskip⟩ := codeSpan_fst_of_run hvalue hblank hlt hlen
  obtain ⟨-, h2, h3, -⟩ := codeSpan_spec (show start ≤ stop by omega) hlen
  have hle : (codeSpan c.text start stop).1 ≤ stop := Nat.le_trans h2 h3
  generalize (codeSpan c.text start stop).1 = first at hfrom hskip hle ⊢
  cases h with
  | @quoted q quote size opens closes =>
    have hq : Text.isBlank q = false ∧ q ≠ '/' := by
      rcases quote with rfl | rfl <;> decide
    have heq : first = value := Nat.le_antisymm (hskip value q hvalue opens hq.1) hfrom
    refine ⟨1, ?_, by omega, fun hs => ?_⟩
    · rw [quoteSize, if_pos (by omega), heq, charAt_natCast opens]
      exact congrArg Except.ok (if_pos quote)
    · -- the last character is a quote
      rw [closes, Option.some.injEq] at hs
      exact absurd hs hq.2
  | bare size chars =>
    refine ⟨0, ?_, by omega, fun hs => ⟨rfl, ?_⟩⟩
    · unfold quoteSize
      by_cases hlt : first < stop
      · obtain ⟨d, hd, hbare⟩ := chars first hfrom hlt
        rw [if_pos (by omega), charAt_natCast hd]
        refine congrArg Except.ok (if_neg ?_)
        rintro (rfl | rfl) <;> exact absurd hbare (by decide)
      · rw [if_neg (by omega)]
        rfl
    · have := hskip (stop - 1) '/' (by omega) hs (by decide)
      omega

/-- **What an attribute comes to**: its pieces are laid out over it. Where it
ends in a slash, the slash is claimed, except that a directive claims
nothing but its name and its sign when only tokens count. -/
structure AttributeLayout (c : Context) (wide : Bool) (free : Nat → Prop) (directive : Bool)
    (start stop : Nat) (ps : List Piece) : Prop where
  layout : Layout wide c.text free start stop True ps
  inside : stop ≤ c.text.length
  slash : c.text[stop - 1]? = some '/' →
    if wide = false ∧ directive = true then
      start ≤ stop - 1 ∧ ∀ s ∈ spans wide ps, s.2 ≤ stop - 1
    else ∃ s ∈ spans wide ps, holds (stop - 1) s = true

/-- The value claims the slash it ends in. -/
theorem holds_slash {directive : Bool} {start stop : Nat}
    (h : start < stop) (hlen : stop ≤ c.text.length) (hslash : c.text[stop - 1]? = some '/')
    (hclaims : ¬ (wide = false ∧ directive = true)) :
    ∃ s ∈ spans wide (c.contentPieces directive start stop 0), holds (stop - 1) s = true := by
  unfold contentPieces
  cases directive with
  | false =>
    refine ⟨(start, stop), ?_, decide_eq_true ⟨by omega, by omega⟩⟩
    simp [tokenPieces, h, spans, Piece.span?]
  | true =>
    have hwide : wide = true := by simpa using hclaims
    obtain ⟨h1, h2, h3, hlead, htrail, -⟩ := codeSpan_spec (Nat.le_of_lt h) hlen
    -- a slash is not blank, so the code goes on to the end
    have h4 := hlead.outside hslash (by decide)
    have h5 := htrail.outside hslash (by decide)
    refine ⟨codeSpan c.text start stop, ?_, decide_eq_true ⟨by omega, by omega⟩⟩
    simp [containerPieces, tokenPieces, spans, Piece.span?, hwide]

/-- The reading of what follows an attribute's name. -/
def readContent (c : Context) (directive : Bool) (value : Text) (sign stop : Int) :
    Emission (Option AttributeContent) :=
  if sign ≠ stop then do
    c.punctuator sign (sign + 1)
    return some (← c.attributeContent directive value (sign + 1) stop)
  else return none

/-- An attribute is read name first. -/
theorem readAttribute_bind (x : Markup.Attribute) {sign : Int}
    (hsign : ((c.text.find? '=' x.mark.start x.mark.stop).map Int.ofNat).getD x.mark.stop = sign) :
    c.readAttribute x =
      c.readKey (c.rules.isDirective x.name) x.mark.start sign x.mark.stop >>= fun key =>
        c.readContent (c.rules.isDirective x.name) x.value sign x.mark.stop >>= fun content =>
          c.place x.mark.start x.mark.stop >>= fun p => pure ⟨p, key, content⟩ := by
  unfold readAttribute readKey readContent
  simp only [hsign]
  cases c.rules.isDirective x.name <;> by_cases h : sign = x.mark.stop <;>
    simp only [Bool.false_eq_true, if_true, if_false, ne_eq, h, not_true_eq_false,
      not_false_eq_true, bind_assoc, pure_bind]

/-- The same between offsets that are known. -/
theorem readAttribute_eq {x : Markup.Attribute} {start stop : Nat} (sign : Nat)
    (hstart : x.mark.start = start) (hstop : x.mark.stop = stop)
    (hsign : ((c.text.find? '=' start stop).map Int.ofNat).getD stop = sign) :
    c.readAttribute x =
      c.readKey (c.rules.isDirective x.name) start sign stop >>= fun key =>
        c.readContent (c.rules.isDirective x.name) x.value sign stop >>= fun content =>
          c.place start stop >>= fun p => pure ⟨p, key, content⟩ := by
  rw [← hstart, ← hstop] at hsign ⊢
  exact readAttribute_bind x hsign

/-- What follows an attribute's name is a sign and a value, whose quotes have a
given size. -/
theorem spells_readContent (hc : c.Indexed) (directive : Bool) (value : Text)
    {sign stop quotes : Nat} (hsign : sign < stop) (hlen : stop ≤ c.text.length)
    (hquotes : c.quoteSize (codeSpan c.text (sign + 1) stop).1 stop = .ok quotes)
    (hfits : (codeSpan c.text (sign + 1) stop).1 + quotes + quotes ≤ stop) :
    Spells c (c.readContent directive value sign stop)
      (tokenPieces .punctuator sign (sign + 1) ++
        c.contentPieces directive (codeSpan c.text (sign + 1) stop).1 stop quotes) := by
  unfold readContent attributeContent contentPieces
  rw [if_pos (by omega), show (sign : Int) + 1 = (sign + 1 : Nat) by omega,
    skipBlanks_eq (show sign + 1 ≤ stop by omega) hlen]
  refine (spells_token _ _ _).bind fun _ => ?_
  simp only [Emission.ofExcept_ok, pure_bind, hquotes]
  cases directive with
  | true =>
    simp only [if_true, bind_assoc, pure_bind]
    exact (spells_container hc hfits hlen).bind_pure _
  | false =>
    obtain ⟨p, hp⟩ := place_eq hc
      (show (codeSpan c.text (sign + 1) stop).1 ≤ stop by omega) hlen
    simp only [Bool.false_eq_true, if_false, attributeValue, hp, bind_assoc, pure_bind]
    exact (spells_token _ _ _).bind_pure _

/-- What comes before an attribute changes nothing about its end. -/
theorem AttributeLayout.after {directive : Bool} {start mid stop : Nat} {ps qs : List Piece}
    (h : Layout wide c.text free start mid True ps)
    (h' : c.AttributeLayout wide free directive mid stop qs) :
    c.AttributeLayout wide free directive start stop (ps ++ qs) where
  layout := h.append_true h'.layout
  inside := h'.inside
  slash hs := by
    have hend := h'.slash hs
    rw [spans_append]
    split
    · rename_i hnarrow
      rw [if_pos hnarrow] at hend
      have := h.ordered
      refine ⟨by omega, fun s hmem => ?_⟩
      rcases List.mem_append.1 hmem with hmem | hmem
      · have := (h.within s hmem).2
        omega
      · exact hend.2 s hmem
    · rename_i hclaims
      rw [if_neg hclaims] at hend
      exact hend.imp fun s hs => ⟨List.mem_append_right _ hs.1, hs.2⟩

/-- A value alone. Where it claims nothing it holds no slash either. -/
theorem attributeLayout_content (hf : c.Frees wide free) (directive : Bool)
    {first stop quotes : Nat} (hfits : first + quotes + quotes ≤ stop) (hlen : stop ≤ c.text.length)
    (hroom : Room c.text first)
    (hslash : c.text[stop - 1]? = some '/' → quotes = 0 ∧ first < stop) :
    c.AttributeLayout wide free directive first stop
      (c.contentPieces directive first stop quotes) where
  layout := by
    unfold contentPieces
    cases directive with
    | true => exact layout_container hf hfits hlen (hroom.mono (Nat.le_add_right _ _))
    | false => exact layout_tokenPieces _ (by omega) hlen
  inside := hlen
  slash hs := by
    obtain ⟨rfl, hlt⟩ := hslash hs
    split
    · rename_i hnarrow
      obtain ⟨rfl, rfl⟩ := hnarrow
      have hnil : spans false (c.contentPieces true first stop 0) = [] := by
        simp [contentPieces, containerPieces, tokenPieces, spans, Piece.span?]
      rw [hnil]
      exact ⟨by omega, fun s hs => absurd hs List.not_mem_nil⟩
    · rename_i hclaims
      exact holds_slash hlt hlen hs hclaims

/-- A name holds no sign. -/
theorem find?_of_name {start stop : Nat} (size : start < stop)
    (chars : c.text.Run isNameChar start stop) : c.text.find? '=' start stop = none := by
  refine find?_eq_none (Nat.le_of_lt size) (chars.le_length size) fun o h1 h2 heq => ?_
  have := chars.outside heq (by decide)
  omega

/-- **The sign of an attribute** is the first one: neither the name nor the blanks after
it hold another. -/
theorem find?_of_assigned {start nameEnd sign stop : Nat} (size : start < nameEnd)
    (chars : c.text.Run isNameChar start nameEnd) (before : nameEnd ≤ sign)
    (blankBefore : c.text.Run Text.isAsciiSpace nameEnd sign) (equals : c.text[sign]? = some '=')
    (hstop : sign < stop) (hlen : stop ≤ c.text.length) :
    c.text.find? '=' start stop = some sign := by
  refine find?_eq_some (by omega) hstop hlen (fun o ho1 ho2 heq => ?_) equals
  have hname := chars.outside heq (by decide)
  have hblank := blankBefore.outside heq (by decide)
  omega

/-- **An attribute without a value** is its name. -/
theorem exists_spells_name (hc : c.Indexed) {x : Markup.Attribute} {start stop : Nat}
    (hstart : x.mark.start = start) (hstop : x.mark.stop = stop) (size : start < stop)
    (chars : c.text.Run isNameChar start stop) :
    ∃ ps, Spells c (c.readAttribute x) ps ∧
      c.AttributeLayout wide free (c.rules.isDirective x.name) start stop ps := by
  have hlen := chars.le_length size
  obtain ⟨p, hp⟩ := place_eq hc (Nat.le_of_lt size) hlen
  have hnone := find?_of_name size chars
  refine ⟨tokenPieces .htmlIdentifier start stop, ?_,
    ⟨layout_tokenPieces _ (Nat.le_of_lt size) hlen, hlen, fun hslash => ?_⟩⟩
  · rw [readAttribute_eq stop hstart hstop (by rw [hnone]; rfl), readContent,
      if_neg (by simp), hp]
    simp only [pure_bind]
    exact (spells_readKey hc _ size chars (Nat.le_refl _) (Text.run_self _ _ _)).bind_pure _
  · -- no name ends in a slash
    have := chars.outside hslash (by decide)
    omega

/-- **An attribute with a value** is its name, the sign, and what the value
comes to. -/
theorem exists_spells_assigned (hc : c.Indexed) (hf : c.Frees wide free)
    {x : Markup.Attribute} {start nameEnd sign value stop : Nat} (hstart : x.mark.start = start)
    (hstop : x.mark.stop = stop) (hroom : Room c.text start) (size : start < nameEnd)
    (chars : c.text.Run isNameChar start nameEnd) (before : nameEnd ≤ sign)
    (blankBefore : c.text.Run Text.isAsciiSpace nameEnd sign) (equals : c.text[sign]? = some '=')
    (after : sign + 1 ≤ value) (blankAfter : c.text.Run Text.isAsciiSpace (sign + 1) value)
    (content : Markup.ValueAt c.text value stop) :
    ∃ ps, Spells c (c.readAttribute x) ps ∧
      c.AttributeLayout wide free (c.rules.isDirective x.name) start stop ps := by
  obtain ⟨hvalue, hlen⟩ := content.lt
  obtain ⟨quotes, hquotes, hfits, hslash⟩ := exists_quoteSize after blankAfter content
  obtain ⟨p, hp⟩ := place_eq hc (show start ≤ stop by omega) hlen
  obtain ⟨h1, h2, h3, hlead, -, -, -⟩ := codeSpan_spec (show sign + 1 ≤ stop by omega) hlen
  have hsome := find?_of_assigned size chars before blankBefore equals (by omega) hlen
  have hkey : Layout wide c.text free start (codeSpan c.text (sign + 1) stop).1 True
      (tokenPieces .htmlIdentifier start nameEnd ++ tokenPieces .punctuator sign (sign + 1)) := by
    refine (layout_tokenPieces _ (Nat.le_of_lt size) (by omega)).append_true ?_
    have hsign : Layout wide c.text free sign (sign + 1) True
        (tokenPieces .punctuator sign (sign + 1)) := layout_tokenPieces _ (by omega) (by omega)
    have hbefore := hf.layout_blank before (blankBefore.imp fun d => isBlank_of_isAsciiSpace)
    simpa only [List.nil_append, List.append_nil] using
      hbefore.append_true (hsign.append_true (hf.layout_blank h1 hlead))
  have hcontent := attributeLayout_content hf (c.rules.isDirective x.name) hfits hlen
    (hroom.mono hkey.ordered) hslash
  refine ⟨_, ?_, hcontent.after hkey⟩
  rw [readAttribute_eq sign hstart hstop (by rw [hsome]; rfl), hp, List.append_assoc]
  simp only [pure_bind]
  exact (spells_readKey hc _ size chars before
    (blankBefore.imp fun d => noName_of_isAsciiSpace)).bind fun key =>
      (spells_readContent hc _ x.value (by omega) hlen hquotes hfits).bind_pure _

/-- **An attribute alone.** -/
theorem exists_spells_readAttribute (hc : c.Indexed) (hf : c.Frees wide free)
    {x : Markup.Attribute} {start stop : Nat} (hstart : x.mark.start = start)
    (hstop : x.mark.stop = stop) (hroom : Room c.text start)
    (h : Markup.AttributeAt c.text start stop) :
    ∃ ps, Spells c (c.readAttribute x) ps ∧
      c.AttributeLayout wide free (c.rules.isDirective x.name) start stop ps := by
  cases h with
  | name size chars => exact exists_spells_name hc hstart hstop size chars
  | assigned size chars before blankBefore equals after blankAfter content =>
    exact exists_spells_assigned hc hf hstart hstop hroom size chars before blankBefore equals
      after blankAfter content

/-- **Several attributes**, laid out over the source up to the end of the last. -/
theorem exists_spells_attributes (hc : c.Indexed) (hf : c.Frees wide free)
    {as : List Markup.Attribute} {start last : Nat} (hroom : Room c.text start)
    (h : Markup.AttributesAt c.text start as last) :
    ∃ ps, Spells c (c.attributes as) ps ∧ Layout wide c.text free start last True ps ∧
      ∀ x, as.getLast? = some x → x.mark.stop = last ∧
        c.AttributeLayout wide free (c.rules.isDirective x.name) start last ps := by
  induction h with
  | nil start =>
    exact ⟨[], spells_pure _, .gap (Nat.le_refl _) fun o h1 h2 => by omega,
      fun x hx => by cases hx⟩
  | @cons x as start first stop last starts stops space blank spelled rest ih =>
    obtain ⟨ps, hps, hfirst⟩ := exists_spells_readAttribute hc hf starts stops
      (hroom.mono (by omega)) spelled
    have hstart : c.AttributeLayout wide free (c.rules.isDirective x.name) start stop ps :=
      hfirst.after (hf.layout_blank (by omega) (blank.imp fun d => isBlank_of_isAsciiSpace))
    cases as with
    | nil =>
      cases rest
      refine ⟨ps, hps.bind_pure _, hstart.layout, fun y hy => ?_⟩
      simp only [List.getLast?_singleton, Option.some.injEq] at hy
      exact hy ▸ ⟨stops, hstart⟩
    | cons z as =>
      obtain ⟨qs, hqs, hrest, hlast⟩ := ih (hroom.mono hstart.layout.ordered)
      refine ⟨ps ++ qs, hps.bind fun _ => hqs.bind_pure _, hstart.layout.append_true hrest,
        fun y hy => ?_⟩
      rw [List.getLast?_cons_cons] at hy
      obtain ⟨hy1, hy2⟩ := hlast y hy
      exact ⟨hy1, hy2.after hstart.layout⟩

end Context

end Template

end SingleFile
