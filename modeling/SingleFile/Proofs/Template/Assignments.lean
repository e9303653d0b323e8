import SingleFile.Proofs.Template.Splits

/-!
# Attributes — names and values found again

A parser of markup reports an attribute by its span, with the name and
the value that its spelling stands for. The template reader takes the span
and looks for the name, the sign, the quotes and the value once more, with
scans of its own. Both agree on what they find (`agrees_of_readAttribute`):
the nodes and tokens of the attribute are cut where its spelling says, and
they say of its name and its value what was reported.
-/

namespace SingleFile

/-- A token of a kind between two offsets of a text. -/
structure Token.Covers (t : Token) (kind : TokenKind) (text : Text) (start stop : Int) : Prop
    extends t.IsPart text start stop where
  kind_eq : t.kind = kind

/-- Tokens of these kinds between these offsets, one for each. -/
def Token.Cover (text : Text) (spans : List (TokenKind × Int × Int)) (ts : List Token) : Prop :=
  List.Forall₂ (fun span t => t.Covers span.1 text span.2.1 span.2.2) spans ts

namespace Markup

/-! ## Spelling -/

/-- What a value without quotes is made of where no blank of any kind may stand in it. -/
def isPlainChar (d : Char) : Bool :=
  !(Text.isBlank d || ['"', '\'', '=', '<', '>'].contains d)

/-- **A value and the size of its quotes**: between two quotes of a kind, whatever stands between
them, or without. -/
inductive Quoted (t : Text) (start stop : Nat) : (quotes : Nat) → Prop
  | quoted {q : Char} (quote : q = '"' ∨ q = '\'') (size : start + 2 ≤ stop)
      (opens : t[start]? = some q) (closes : t[stop - 1]? = some q) : Quoted t start stop 1
  | bare (size : start < stop) (chars : t.Run isPlainChar start stop) : Quoted t start stop 0

/-- Where the parts of an attribute with a value stand, and the size of the value's quotes. -/
structure Assignment where
  start : Nat
  nameStop : Nat
  sign : Nat
  value : Nat
  stop : Nat
  quotes : Nat

/-- **An attribute with a value** is spelled at some offsets, and its name and its value are
reported from there: the value without its quotes and with its character references decoded. -/
structure Assignment.Spells (o : Assignment) (t : Text) (a : Attribute) : Prop where
  starts : a.mark.start = o.start
  stops : a.mark.stop = o.stop
  size : o.start < o.nameStop
  chars : t.Run Template.isNameChar o.start o.nameStop
  before : o.nameStop ≤ o.sign
  blankBefore : t.Run Text.isAsciiSpace o.nameStop o.sign
  equals : t[o.sign]? = some '='
  after : o.sign + 1 ≤ o.value
  blankAfter : t.Run Text.isAsciiSpace (o.sign + 1) o.value
  content : Quoted t o.value o.stop o.quotes
  name : a.name = t.slice o.start o.nameStop
  value : a.value =
    Reference.unescape (t.slice (o.value + o.quotes : Nat) (o.stop - o.quotes : Nat))

variable {t : Text} {start stop quotes : Nat}

/-- There is room for the quotes, and more than nothing in the value. -/
theorem Quoted.bounds (h : Quoted t start stop quotes) :
    start < stop ∧ start + quotes + quotes ≤ stop ∧ stop ≤ t.length := by
  cases h with
  | quoted _ size _ closes =>
    have := (List.getElem?_eq_some_iff.1 closes).1
    omega
  | bare size chars =>
    have := chars.le_length size
    omega

/-- A quote is one character. -/
theorem Quoted.quotes_le (h : Quoted t start stop quotes) : quotes ≤ 1 := by
  cases h <;> omega

/-- No value begins with a blank. -/
theorem Quoted.notBlank_head (h : Quoted t start stop quotes) :
    ∃ d, t[start]? = some d ∧ Text.isBlank d = false := by
  cases h with
  | quoted quote _ opens _ =>
    refine ⟨_, opens, ?_⟩
    rcases quote with rfl | rfl <;> decide
  | bare size chars =>
    obtain ⟨d, hd, hplain⟩ := chars start (Nat.le_refl start) size
    cases hblank : Text.isBlank d with
    | false => exact ⟨d, hd, hblank⟩
    | true =>
      rw [isPlainChar, hblank] at hplain
      cases hplain

end Markup

namespace Template

/-! ## Readings that emit tokens -/

namespace Emission

/-- Whenever the reading ends well, it has emitted these tokens and nothing else, and the condition
holds of what it returns. -/
def Writes {α : Type} (m : Emission α) (text : Text) (spans : List (TokenKind × Int × Int))
    (P : α → Prop) : Prop :=
  ∀ n v, (m n).result = .ok v →
    (∃ ts, (m n).effects = ts.map .token ∧ Token.Cover text spans ts) ∧ P v

/-- Whenever the reading ends well, it has read the code between two offsets as one expression, with
these tokens before it and behind it and nothing else, and the condition holds of what it returns
and of what came of the expression. -/
def Encloses {α : Type} (m : Emission α) (r : ExpressionReader) (code : Nat × Nat)
    (before behind : List (TokenKind × Int × Int))
    (P : α → Except SyntaxError ScriptNode → Prop) : Prop :=
  ∀ n v, (m n).result = .ok v → ∃ outcome,
    (r.read code.1 code.2 n).result = .ok outcome ∧
      (∃ ts us, (m n).effects =
          ts.map .token ++ ((r.read code.1 code.2 n).effects ++ us.map .token) ∧
        Token.Cover r.text before ts ∧ Token.Cover r.text behind us) ∧ P v outcome

variable {α β : Type} {m : Emission α} {f : α → Emission β} {text : Text}
  {r : ExpressionReader} {code : Nat × Nat} {xs ys zs : List (TokenKind × Int × Int)}
  {P : α → Prop} {Q : β → Prop} {R : α → Except SyntaxError ScriptNode → Prop}
  {S : β → Except SyntaxError ScriptNode → Prop}

/-- A value alone. -/
theorem writes_pure {v : α} (h : P v) : (pure v : Emission α).Writes text [] P := by
  intro n w hw
  cases hw
  exact ⟨⟨[], rfl, .nil⟩, h⟩

/-- A result that can only breach. -/
theorem writes_ofBreach {e : Except Breach α} (h : ∀ v, e = .ok v → P v) :
    (ofBreach e).Writes text [] P :=
  fun _ v hv => ⟨⟨[], rfl, .nil⟩, h v (Failure.ofBreach_eq_ok_iff.1 hv)⟩

/-- **Readings in sequence** emit their tokens one after the other. -/
theorem Writes.bind (hm : m.Writes text xs P) (hf : ∀ v, P v → (f v).Writes text ys Q) :
    (m >>= f).Writes text (xs ++ ys) Q := by
  intro n w hw
  obtain ⟨v, hv, hfv⟩ := result_bind_eq_ok_iff.1 hw
  obtain ⟨⟨ts, hts, hxs⟩, hP⟩ := hm n v hv
  obtain ⟨⟨us, hus, hys⟩, hQ⟩ := hf v hP _ w hfv
  refine ⟨⟨ts ++ us, ?_, List.rel_append hxs hys⟩, hQ⟩
  rw [bind_of_ok hv, hus, hts, List.map_append]

/-- The second may emit nothing. -/
theorem Writes.bind_silent (hm : m.Writes text xs P) (hf : ∀ v, P v → (f v).Writes text [] Q) :
    (m >>= f).Writes text xs Q := by
  have hboth : (m >>= f).Writes text (xs ++ []) Q := hm.bind hf
  rwa [List.append_nil] at hboth

/-- And so may the first. -/
theorem Writes.silent_bind (hm : m.Writes text [] P) (hf : ∀ v, P v → (f v).Writes text ys Q) :
    (m >>= f).Writes text ys Q :=
  hm.bind hf

/-- Tokens hand over no text. -/
theorem Writes.asks (h : m.Writes text xs P) : m.Asks 0 := by
  intro n v hv
  obtain ⟨⟨ts, hts, -⟩, -⟩ := h n v hv
  rw [hts, ← Effect.length_texts, Effect.texts_map_token]
  rfl

/-- The expression alone. -/
theorem encloses_read (start stop : Nat) :
    (r.read start stop).Encloses r (start, stop) [] [] fun v outcome => v = outcome := by
  intro n v hv
  refine ⟨v, hv, ⟨[], [], ?_, .nil, .nil⟩, rfl⟩
  exact (List.append_nil _).symm

/-- **Tokens in front** of an expression: it is still the first. -/
theorem Writes.bind_encloses (hm : m.Writes r.text xs P)
    (hf : ∀ v, P v → (f v).Encloses r code ys zs S) :
    (m >>= f).Encloses r code (xs ++ ys) zs S := by
  intro n w hw
  obtain ⟨v, hv, hfv⟩ := result_bind_eq_ok_iff.1 hw
  obtain ⟨⟨ts, hts, hxs⟩, hP⟩ := hm n v hv
  have hasks : n + Effect.asks (m n).effects = n := by rw [hm.asks n v hv, Nat.add_zero]
  rw [hasks] at hfv
  obtain ⟨outcome, hread, ⟨us, vs, hus, hys, hzs⟩, hS⟩ := hf v hP n w hfv
  refine ⟨outcome, hread, ⟨ts ++ us, vs, ?_, List.rel_append hxs hys, hzs⟩, hS⟩
  rw [bind_of_ok hv, hasks, hus, hts, List.map_append, List.append_assoc]

/-- **Tokens behind** it. -/
theorem Encloses.bind_writes (hm : m.Encloses r code xs ys R)
    (hf : ∀ v outcome, R v outcome → (f v).Writes r.text zs (S · outcome)) :
    (m >>= f).Encloses r code xs (ys ++ zs) S := by
  intro n w hw
  obtain ⟨v, hv, hfv⟩ := result_bind_eq_ok_iff.1 hw
  obtain ⟨outcome, hread, ⟨ts, us, hes, hxs, hys⟩, hR⟩ := hm n v hv
  obtain ⟨⟨vs, hvs, hzs⟩, hS⟩ := hf v outcome hR _ w hfv
  refine ⟨outcome, hread, ⟨ts, us ++ vs, ?_, hxs, List.rel_append hys hzs⟩, hS⟩
  rw [bind_of_ok hv, hvs, hes, List.map_append, List.append_assoc, List.append_assoc]

end Emission

/-! ## What the nodes say -/

/-- **A plain attribute as it was reported**, with its parts where its spelling has them. Its value
is what is written between the quotes, decoded. -/
structure Attribute.ReadsPlain (o : Markup.Assignment) (t : Text) (a : Markup.Attribute)
    (node : Attribute) : Prop where
  place : node.place.Spans o.start o.stop
  key : ∃ name, node.key = .identifier name ∧ name.place.Spans o.start o.nameStop ∧
    name.name = a.name
  content : ∃ value, node.content = some (.literal value) ∧ value.place.Spans o.value o.stop ∧
    value.raw = t.slice o.value o.stop ∧
    value.value =
      Reference.unescape (value.raw.slice o.quotes (value.raw.length - o.quotes : Nat)) ∧
    value.value = a.value

/-- **A directive as it was reported**, with what came of its expression. -/
structure Attribute.ReadsDirective (o : Markup.Assignment) (rules : DirectiveRules)
    (a : Markup.Attribute) (node : Attribute) (outcome : Except SyntaxError ScriptNode) :
    Prop where
  place : node.place.Spans o.start o.stop
  key : ∃ key, node.key = .directive key ∧ key.place.Spans o.start o.nameStop ∧
    key.parts = rules.decompose a.name
  content : ∃ k, node.content = some (.container k) ∧ k.place.Spans o.value o.stop ∧
    k.outcome = outcome

namespace Context

variable {c : Context} {start stop : Int}

/-! ## Leaves -/

/-- A token between two offsets in order. -/
theorem writes_token (kind : TokenKind) (h : start < stop) :
    (c.token kind start stop).Writes c.text [(kind, start, stop)] fun _ => True := by
  unfold token
  rw [if_pos h]
  intro n v hv
  obtain ⟨t, ht, -⟩ := Emission.result_bind_eq_ok_iff.1 hv
  rw [Emission.bind_of_ok ht]
  refine ⟨⟨[t], rfl, .cons ?_ .nil⟩, trivial⟩
  have ht : Token.ofSource kind c.text c.reader.index start stop none = .ok t :=
    Failure.ofBreach_eq_ok_iff.1 ht
  obtain ⟨range, hrange, ht⟩ := except_bind_eq_ok_iff.1 ht
  obtain ⟨location, -, ht⟩ := except_bind_eq_ok_iff.1 ht
  cases ht
  obtain ⟨rfl, rfl⟩ := Range.ofBounds_eq_ok_iff.1 hrange
  exact ⟨⟨rfl, rfl, rfl⟩, rfl⟩

/-- A quote where there is one, and nothing where there is none. -/
theorem writes_quote {quotes : Nat} (hquotes : quotes ≤ 1) (h : stop = start + quotes) :
    (c.punctuator start stop).Writes c.text (List.replicate quotes (.punctuator, start, stop))
      fun _ => True := by
  unfold punctuator
  rcases Nat.le_one_iff_eq_zero_or_eq_one.1 hquotes with rfl | rfl
  · unfold token
    rw [if_neg (by omega)]
    exact Emission.writes_pure trivial
  · exact writes_token _ (by omega)

/-- A place. -/
theorem writes_place :
    (c.place start stop).Writes c.text [] fun p => p.Spans start stop := by
  unfold place
  have hrange : (Emission.ofBreach (Range.ofBounds start stop)).Writes c.text [] fun r =>
      (r.start : Int) = start ∧ (r.stop : Int) = stop := by
    refine Emission.writes_ofBreach fun r hr => ?_
    obtain ⟨hstart, hstop⟩ := Range.ofBounds_eq_ok_iff.1 hr
    exact ⟨hstart.symm, hstop.symm⟩
  have hlocation : (Emission.ofBreach (c.reader.index.location start stop)).Writes c.text []
      fun _ => True := Emission.writes_ofBreach fun _ _ => trivial
  exact hrange.silent_bind fun r hr => hlocation.silent_bind fun _ _ => Emission.writes_pure hr

/-- What is one token, with its place. -/
theorem writes_covered {α : Type} {P : α → Prop} (kind : TokenKind) (h : start < stop)
    {g : Place → α} (hg : ∀ p : Place, p.Spans start stop → P (g p)) :
    (c.token kind start stop >>= fun _ => c.place start stop >>= fun p =>
      (pure (g p) : Emission α)).Writes c.text [(kind, start, stop)] P :=
  (writes_token kind h).bind_silent fun _ _ =>
    writes_place.silent_bind fun p hp => Emission.writes_pure (hg p hp)

/-- **An expression between quotes**: its code is what is left of the text between them. -/
theorem encloses_container {value stop quotes : Nat} (h : Markup.Quoted c.text value stop quotes) :
    (c.container value stop quotes quotes).Encloses c.reader
      (codeSpan c.text (value + quotes) (stop - quotes))
      (List.replicate quotes (.punctuator, ↑value, ↑value + ↑quotes))
      (List.replicate quotes (.punctuator, ↑stop - ↑quotes, ↑stop))
      fun k outcome => k.place.Spans value stop ∧ k.outcome = outcome := by
  obtain ⟨hlt, hroom, hlen⟩ := h.bounds
  have hcode : c.codeBounds (↑value + ↑quotes) (↑stop - ↑quotes) =
      .ok (((codeSpan c.text (value + quotes) (stop - quotes)).1 : Int),
        ((codeSpan c.text (value + quotes) (stop - quotes)).2 : Int)) := by
    rw [show (value : Int) + quotes = (value + quotes : Nat) by omega,
      show (stop : Int) - quotes = (stop - quotes : Nat) by omega]
    exact codeBounds_eq (by omega) (by omega)
  have hopen : (c.punctuator value (↑value + ↑quotes)).Writes c.text _ _ :=
    writes_quote h.quotes_le rfl
  have hclose : (c.punctuator (↑stop - ↑quotes) stop).Writes c.text _ _ :=
    writes_quote h.quotes_le (by omega)
  unfold container
  rw [hcode, Emission.ofExcept_ok]
  simp only [pure_bind]
  rw [← List.append_nil (List.replicate quotes (TokenKind.punctuator, (value : Int), _))]
  refine hopen.bind_encloses fun _ _ => ?_
  rw [← List.nil_append (List.replicate quotes _)]
  refine (Emission.encloses_read _ _).bind_writes fun v outcome hv => ?_
  refine hclose.bind_silent fun _ _ => ?_
  exact writes_place.silent_bind fun p hp => Emission.writes_pure ⟨hp, hv⟩

/-! ## Scans -/

section

variable {o : Markup.Assignment} {a : Markup.Attribute}

/-- The sign is found. -/
theorem sign_eq (h : o.Spells c.text a) :
    ((c.text.find? '=' o.start o.stop).map Int.ofNat).getD o.stop = o.sign := by
  obtain ⟨hlt, -, hlen⟩ := h.content.bounds
  have hafter := h.after
  rw [find?_of_assigned h.size h.chars h.before h.blankBefore h.equals (by omega) hlen]
  rfl

/-- So is the value, which begins at the first character that is not blank. -/
theorem codeSpan_fst_eq (h : o.Spells c.text a) :
    (codeSpan c.text (o.sign + 1) o.stop).1 = o.value := by
  obtain ⟨hlt, -, hlen⟩ := h.content.bounds
  obtain ⟨hle, hskip⟩ := codeSpan_fst_of_run h.after h.blankAfter hlt hlen
  obtain ⟨d, hd, hblank⟩ := h.content.notBlank_head
  exact Nat.le_antisymm (hskip o.value d h.after hd hblank) hle

/-- And its quotes. -/
theorem quoteSize_eq {value stop quotes : Nat} (h : Markup.Quoted c.text value stop quotes) :
    c.quoteSize value stop = .ok quotes := by
  have hlt := h.bounds.1
  unfold quoteSize
  rw [if_pos (by omega)]
  cases h with
  | quoted quote _ opens _ =>
    rw [charAt_natCast opens]
    exact congrArg Except.ok (if_pos quote)
  | bare size chars =>
    obtain ⟨d, hd, hplain⟩ := chars value (Nat.le_refl value) size
    rw [charAt_natCast hd]
    refine congrArg Except.ok (if_neg ?_)
    rintro (rfl | rfl) <;> exact absurd hplain (by decide)

/-- **The name of a plain attribute** is one token, and the name that was reported. -/
theorem writes_identifier (h : o.Spells c.text a) :
    (c.readKey false o.start o.sign o.stop).Writes c.text [(.htmlIdentifier, o.start, o.nameStop)]
      fun key => ∃ name, key = .identifier name ∧ name.place.Spans o.start o.nameStop ∧
        name.name = a.name := by
  have hname : c.nameBetween o.start o.sign o.stop = c.named o.start o.nameStop :=
    nameBetween_eq h.size h.chars h.before (h.blankBefore.imp fun d => noName_of_isAsciiSpace)
  have hsize := h.size
  unfold readKey
  rw [if_neg Bool.false_ne_true, hname]
  unfold named
  simp only [bind_assoc, pure_bind]
  exact writes_covered _ (by omega) fun p hp => ⟨_, rfl, hp, h.name.symm⟩

/-- **That of a directive** is one token, and has the parts of the name that was reported. -/
theorem writes_directiveKey (h : o.Spells c.text a) :
    (c.readKey true o.start o.sign o.stop).Writes c.text [(.htmlIdentifier, o.start, o.nameStop)]
      fun key => ∃ d, key = .directive d ∧ d.place.Spans o.start o.nameStop ∧
        d.parts = c.rules.decompose a.name := by
  have hname := nameStop_eq h.chars h.size h.before
    (h.blankBefore.imp fun d => noName_of_isAsciiSpace)
  have hsize := h.size
  unfold readKey
  rw [if_pos rfl, hname, Emission.ofExcept_ok, pure_bind]
  unfold directiveKey
  simp only [bind_assoc, pure_bind]
  exact writes_covered _ (by omega) fun p hp => ⟨_, rfl, hp, by rw [h.name]⟩

/-- What follows the name is the sign, and the value at the offset where it stands. -/
theorem readContent_eq (h : o.Spells c.text a) (directive : Bool) :
    c.readContent directive a.value o.sign o.stop =
      c.punctuator o.sign (o.sign + 1) >>= fun _ =>
        if directive then
          c.container o.value o.stop o.quotes o.quotes >>= fun k => pure (some (.container k))
        else c.attributeValue o.value o.stop a.value >>= fun v => pure (some (.literal v)) := by
  obtain ⟨hlt, -, hlen⟩ := h.content.bounds
  have hafter := h.after
  have hskip := skipBlanks_eq (c := c) (a := o.sign + 1) (b := o.stop) (by omega) hlen
  rw [codeSpan_fst_eq h] at hskip
  unfold readContent attributeContent
  rw [if_pos (by omega), show (o.sign : Int) + 1 = (o.sign + 1 : Nat) by omega, hskip,
    Emission.ofExcept_ok, pure_bind, quoteSize_eq h.content, Emission.ofExcept_ok, pure_bind]
  cases directive <;> simp only [Bool.false_eq_true, if_true, if_false, bind_assoc, pure_bind]

/-- The text between the quotes of a value, from the text with them. -/
theorem unquoted_eq {t : Text} {value stop quotes : Nat} (h : Markup.Quoted t value stop quotes) :
    (t.slice value stop).slice quotes ((t.slice value stop).length - quotes : Nat) =
      t.slice (value + quotes : Nat) (stop - quotes : Nat) := by
  obtain ⟨hlt, hroom, hlen⟩ := h.bounds
  have hsize : (t.slice value stop).length = stop - value := Text.length_slice hlen (by omega)
  rw [hsize, Text.slice_slice hlen (by omega) (by omega)]
  congr 2
  omega

/-- **A plain attribute with a value** is a name, a sign and a value. -/
theorem writes_readAttribute (h : o.Spells c.text a) (hplain : c.rules.isDirective a.name = false) :
    (c.readAttribute a).Writes c.text
      [(.htmlIdentifier, o.start, o.nameStop), (.punctuator, o.sign, o.sign + 1),
        (.htmlAttributeValue, o.value, o.stop)]
      (Attribute.ReadsPlain o c.text a) := by
  have hlt := h.content.bounds.1
  rw [readAttribute_eq o.sign h.starts h.stops (sign_eq h), hplain, readContent_eq h,
    if_neg Bool.false_ne_true]
  unfold attributeValue
  simp only [bind_assoc, pure_bind]
  refine (writes_identifier h).bind fun key hkey => ?_
  refine (writes_token .punctuator (by omega)).bind fun _ _ => ?_
  refine (writes_token .htmlAttributeValue (by omega)).bind fun _ _ => ?_
  refine writes_place.silent_bind fun p hp => writes_place.silent_bind fun q hq => ?_
  refine Emission.writes_pure ⟨hq, hkey, _, rfl, hp, rfl, ?_, rfl⟩
  rw [unquoted_eq h.content, h.value]

/-- **A directive with a value** is a name, a sign, and an expression between quotes. -/
theorem encloses_readAttribute (h : o.Spells c.text a)
    (hdirective : c.rules.isDirective a.name = true) :
    (c.readAttribute a).Encloses c.reader
      (codeSpan c.text (o.value + o.quotes) (o.stop - o.quotes))
      ((.htmlIdentifier, ↑o.start, ↑o.nameStop) :: (.punctuator, ↑o.sign, ↑o.sign + 1) ::
        List.replicate o.quotes (.punctuator, ↑o.value, ↑o.value + ↑o.quotes))
      (List.replicate o.quotes (.punctuator, ↑o.stop - ↑o.quotes, ↑o.stop))
      (Attribute.ReadsDirective o c.rules a) := by
  rw [readAttribute_eq o.sign h.starts h.stops (sign_eq h), hdirective, readContent_eq h,
    if_pos rfl]
  simp only [bind_assoc, pure_bind]
  refine (writes_directiveKey h).bind_encloses fun key hkey => ?_
  refine (writes_token .punctuator (by omega)).bind_encloses fun _ _ => ?_
  rw [← List.append_nil (List.replicate o.quotes (_, (_ : Int) - _, _))]
  refine (encloses_container h.content).bind_writes fun k outcome hk => ?_
  exact writes_place.silent_bind fun p hp => Emission.writes_pure ⟨hp, hkey, k, rfl, hk⟩

/-- **The report of an attribute and its nodes agree**, whatever the text, the settings and the
script reader are. A plain attribute comes to three tokens, and the script reader is not asked. A
directive comes to tokens for its name, its sign and its quotes, and to an expression: the script
reader is asked once, for the text between the quotes without the blanks at either end. -/
theorem agrees_of_readAttribute {text : Text} {parser : ScriptParser} {settings : TemplateSettings}
    {reporter : String} {l l' : Ledger} {node : Attribute} (h : o.Spells text a)
    (hok : l.run ((ofSettings text parser settings reporter).readAttribute a) = (l', .ok node)) :
    ((DirectiveRules.ofSettings settings).isDirective a.name = false →
      Attribute.ReadsPlain o text a node ∧ l'.asked = l.asked ∧
        ∃ ts, l'.store.tokens = l.store.tokens ++ ts ∧
          Token.Cover text [(.htmlIdentifier, o.start, o.nameStop),
            (.punctuator, o.sign, o.sign + 1), (.htmlAttributeValue, o.value, o.stop)] ts) ∧
    ((DirectiveRules.ofSettings settings).isDirective a.name = true →
      ∃ code outcome read surrogate ts us,
        Trims text (o.value + o.quotes) (o.stop - o.quotes) code ∧
        (ExpressionReader.ofText text parser reporter).read code.1 code.2 l.asked.length =
          ⟨read, .ok outcome⟩ ∧
        (ExpressionReader.ofText text parser reporter).surrogate? code.1 code.2 =
          some surrogate ∧
        Attribute.ReadsDirective o (DirectiveRules.ofSettings settings) a node outcome ∧
        l'.asked = l.asked ++ [surrogate] ∧
        l'.store.tokens = l.store.tokens ++ (ts ++ (Effect.tokens read ++ us)) ∧
        Token.Cover text ((.htmlIdentifier, ↑o.start, ↑o.nameStop) ::
          (.punctuator, ↑o.sign, ↑o.sign + 1) ::
            List.replicate o.quotes (.punctuator, ↑o.value, ↑o.value + ↑o.quotes)) ts ∧
        Token.Cover text
          (List.replicate o.quotes (.punctuator, ↑o.stop - ↑o.quotes, ↑o.stop)) us) := by
  obtain ⟨hresult, hnone⟩ := Ledger.run_snd_eq_ok_iff.1 (congrArg Prod.snd hok)
  obtain ⟨htokens, -, -, hasked⟩ := Ledger.enterAll_fst hnone
  rw [← Ledger.run_fst, hok] at htokens hasked
  constructor
  · intro hplain
    obtain ⟨⟨ts, hts, hcover⟩, hreads⟩ := writes_readAttribute
      (c := ofSettings text parser settings reporter) h hplain _ node hresult
    rw [hts, Effect.tokens_map_token] at htokens
    rw [hts, Effect.texts_map_token, List.append_nil] at hasked
    exact ⟨hreads, hasked, ts, htokens, hcover⟩
  · intro hdirective
    obtain ⟨hlt, hroom, hlen⟩ := h.content.bounds
    obtain ⟨outcome, hread, ⟨ts, us, hes, hbefore, hbehind⟩, hreads⟩ := encloses_readAttribute
      (c := ofSettings text parser settings reporter) h hdirective _ node hresult
    obtain ⟨hadmits, surrogate, hsurrogate⟩ := ExpressionReader.admitted_of_read hread
    have htexts := ExpressionReader.texts_read (n := l.asked.length) hadmits hsurrogate
    simp only [hes, Effect.tokens_append, Effect.tokens_map_token] at htokens
    simp only [hes, Effect.texts_append, Effect.texts_map_token, htexts, List.nil_append,
      List.append_nil] at hasked
    refine ⟨_, outcome, _, surrogate, ts, us, trims_codeSpan (by omega) (by omega), ?_, hsurrogate,
      hreads, hasked, htokens, hbefore, hbehind⟩
    rw [← hread]
    rfl

end

/-! ## Blanks on both sides -/

namespace Spaced

/-- A tag with a directive that has blanks around its sign and before its code. -/
def source : Text := "<a :b = \" c\">".toList

/-- The report of the directive. -/
def report : Markup.Attribute := ⟨":b".toList, " c".toList, ⟨3, 12, 1, 4⟩⟩

/-- Where its parts stand. -/
def assignment : Markup.Assignment := ⟨3, 5, 6, 8, 12, 1⟩

/-- It is spelled as it is reported. -/
theorem spells : assignment.Spells source report where
  starts := rfl
  stops := rfl
  size := by decide
  chars := by decide
  before := by decide
  blankBefore := by decide
  equals := by decide
  after := by decide
  blankAfter := by decide
  content := .quoted (.inl rfl) (by decide) (by decide) (by decide)
  name := by decide
  value := by decide

/-- The script reader that rejects everything. -/
def rejecting : ScriptParser := fun _ _ => .error (.syntaxError ⟨"Unexpected token", 0, ⟨1, 0⟩⟩)

/-- The reading of the directive. -/
def reading : Emission Attribute := (ofSettings source rejecting {} "").readAttribute report

/-- It returns. -/
theorem run_reading : (Ledger.run {} reading).2.map (fun _ => ()) = .ok () := by
  decide +kernel

end Spaced

/-- The quotes are told from the code, and the blank before the code is left out. -/
theorem agrees_of_readAttribute_spaced : ∃ l' node code,
    Ledger.run {} Spaced.reading = (l', .ok node) ∧
      (∃ key, node.key = .directive key ∧ key.place.Spans (3 : Nat) (5 : Nat) ∧
        key.parts = ⟨[':'], some ['b'], [], true⟩) ∧
      (∃ k, node.content = some (.container k) ∧ k.place.Spans (8 : Nat) (12 : Nat)) ∧
      Trims Spaced.source 9 11 code := by
  obtain ⟨node, hnode, -⟩ := except_map_eq_ok_iff.1 Spaced.run_reading
  have hok : Ledger.run {} Spaced.reading = ((Ledger.run {} Spaced.reading).1, .ok node) :=
    Prod.ext rfl hnode
  obtain ⟨code, outcome, read, surrogate, ts, us, htrims, -, -, hreads, -⟩ :=
    (agrees_of_readAttribute Spaced.spells hok).2 (by decide)
  obtain ⟨k, hcontent, hplace, -⟩ := hreads.content
  exact ⟨_, node, code, hok, hreads.key, ⟨k, hcontent, hplace⟩, htrims⟩

end Context

end Template

end SingleFile
