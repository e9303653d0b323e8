import SingleFile.Proofs.Template.Counts
import SingleFile.Proofs.Template.Inside
import SingleFile.Proofs.Token.Lookup

/-!
# Templates — the ends of nodes are ends of tokens

Every node is read off the source together with the tokens for it, so a
token starts where the node does and one ends where it ends. There are
three exceptions. A directive value without quotes has no delimiters, and
begins and ends with whatever the tokens of its expression do; a value of
blanks alone is an empty node; and an element without end tag may end
with a comment or an entry that is skipped, for which there is no token.
`Edged` says so of the nodes in a walk and the tokens emitted for them,
and is carried through the visitors.
-/

namespace SingleFile

/-- The part from the start of a range on opens it. -/
theorem Token.IsPart.opensIn {t : Token} {text : Text} {a b : Int} {r : Range}
    (h : t.IsPart text a b) (ha : a = r.start) (hlt : a < b) (hb : b ≤ r.stop) : t.OpensIn r := by
  have hstart := h.start_eq
  have hstop := h.stop_eq
  unfold OpensIn
  omega

/-- The part up to the end of a range closes it. -/
theorem Token.IsPart.closesIn {t : Token} {text : Text} {a b : Int} {r : Range}
    (h : t.IsPart text a b) (ha : (r.start : Int) ≤ a) (hb : b = r.stop) : t.ClosesIn r := by
  have hstart := h.start_eq
  have hstop := h.stop_eq
  unfold ClosesIn
  omega

namespace Template

/-! ## Nodes and tokens -/

/-- Whether a node is an expression. -/
def Item.isContainer : Item → Bool
  | .container _ => true
  | _ => false

/-- The number of expressions among nodes. -/
def containers (xs : List Item) : Nat := xs.countP Item.isContainer

/-- Numbers of expressions add up. -/
theorem containers_append (xs ys : List Item) :
    containers (xs ++ ys) = containers xs + containers ys := List.countP_append

/-- An expression has no quotes around it. -/
def Container.IsBare (y : Container) (text : Text) : Prop :=
  ∀ q, text[y.place.range.start]? = some q → q ≠ '"' ∧ q ≠ '\''

/-- The value of an attribute is an empty node. -/
def Item.EmptyValued (x : Item) : Prop :=
  ∃ a v, x = .attr a ∧ a.content = some v ∧ v.item.place.range.start = v.item.place.range.stop

/-- A node ends with one of some marks, which is not empty. -/
def Place.EndsWith (p : Place) (marks : List Mark) : Prop :=
  ∃ m ∈ marks, (p.range.start : Int) ≤ m.start ∧ m.start < m.stop ∧ m.stop = p.range.stop

/-- An element without end tag ends with one of some marks. -/
def Item.EndsQuietly (x : Item) (marks : List Mark) : Prop :=
  (∃ place name opening attributes children,
    x = .element place name opening none attributes children) ∧ x.place.EndsWith marks

namespace Context

variable {c : Context} {marks : List Mark} {n mid n' : Nat} {xs ys : List Item}
  {ts us : List Token}

/-- The tokens of an expression without delimiters, when it is the one after `n` others. -/
def bareTokens (c : Context) (y : Container) (n : Nat) : List Token :=
  let code := codeSpan c.text y.place.range.start y.place.range.stop
  Effect.tokens (c.reader.read code.1 code.2 n).effects

/-- **A directive value without quotes** among nodes that come after `n` expressions,
and the tokens of its own expression. -/
def BareValue (c : Context) (n : Nat) (xs : List Item) (a : Attribute) (y : Container)
    (us : List Token) : Prop :=
  ∃ i, xs[i]? = some (.attr a) ∧ a.content = some (.container y) ∧ y.IsBare c.text ∧
    us = c.bareTokens y (n + containers (xs.take i))

/-- **Nodes of a walk, and tokens at their ends**: every node that is not empty begins
and ends with a token, except for bare values and for nodes that end with nothing
that has a token. -/
structure Edged (c : Context) (marks : List Mark) (n : Nat) (xs : List Item) (ts : List Token)
    (n' : Nat) : Prop where
  asked : n' = n + containers xs
  opened : ∀ x ∈ xs, x.place.range.start < x.place.range.stop →
    (∃ t ∈ ts, t.OpensIn x.place.range) ∨
      ∃ a y us, c.BareValue n xs a y us ∧ x = .container y ∧ ∀ t ∈ us, ¬ t.OpensIn y.place.range
  closed : ∀ x ∈ xs, x.place.range.start < x.place.range.stop →
    (∃ t ∈ ts, t.ClosesIn x.place.range) ∨
      (∃ a y us, c.BareValue n xs a y us ∧ (x = .attr a ∨ x = .container y) ∧
        ∀ t ∈ us, ¬ t.ClosesIn y.place.range) ∨
      x.EmptyValued ∨ x.EndsQuietly marks

/-- A bare value is one among more nodes after it. -/
theorem BareValue.append_right {a : Attribute} {y : Container} (h : c.BareValue n xs a y us)
    (ys : List Item) : c.BareValue n (xs ++ ys) a y us := by
  obtain ⟨i, hi, hcontent, hbare, hus⟩ := h
  have hlt := (List.getElem?_eq_some_iff.1 hi).1
  refine ⟨i, ?_, hcontent, hbare, ?_⟩
  · rw [List.getElem?_append_left hlt, hi]
  · rw [List.take_append_of_le_length (Nat.le_of_lt hlt), hus]

/-- And among more nodes before it, whose expressions are counted. -/
theorem BareValue.append_left {a : Attribute} {y : Container}
    (h : c.BareValue (n + containers xs) ys a y us) : c.BareValue n (xs ++ ys) a y us := by
  obtain ⟨i, hi, hcontent, hbare, hus⟩ := h
  refine ⟨xs.length + i, ?_, hcontent, hbare, ?_⟩
  · rw [List.getElem?_append_right (Nat.le_add_right _ _), Nat.add_sub_cancel_left, hi]
  · rw [List.take_length_add_append, containers_append, hus, Nat.add_assoc]

namespace Edged

/-- No nodes. -/
theorem nil (ts : List Token) : c.Edged marks n [] ts n :=
  ⟨rfl, List.forall_mem_nil _, List.forall_mem_nil _⟩

/-- More tokens do no harm. -/
theorem mono (h : c.Edged marks n xs ts n') (hts : ∀ t ∈ ts, t ∈ us) :
    c.Edged marks n xs us n' := by
  refine ⟨h.asked, fun x hx hlt => ?_, fun x hx hlt => ?_⟩
  · exact (h.opened x hx hlt).imp (fun ⟨t, ht, ho⟩ => ⟨t, hts t ht, ho⟩) id
  · exact (h.closed x hx hlt).imp (fun ⟨t, ht, ho⟩ => ⟨t, hts t ht, ho⟩) id

/-- **Nodes and more nodes**, with the same tokens. -/
theorem append (hx : c.Edged marks n xs ts mid) (hy : c.Edged marks mid ys ts n') :
    c.Edged marks n (xs ++ ys) ts n' := by
  obtain rfl := hx.asked
  refine ⟨?_, fun x hmem hlt => ?_, fun x hmem hlt => ?_⟩
  · rw [hy.asked, containers_append, Nat.add_assoc]
  · rcases List.mem_append.1 hmem with hmem | hmem
    · exact (hx.opened x hmem hlt).imp id fun ⟨a, y, us, hbare, h⟩ =>
        ⟨a, y, us, hbare.append_right ys, h⟩
    · exact (hy.opened x hmem hlt).imp id fun ⟨a, y, us, hbare, h⟩ =>
        ⟨a, y, us, hbare.append_left, h⟩
  · rcases List.mem_append.1 hmem with hmem | hmem
    · exact (hx.closed x hmem hlt).imp id fun h => h.imp
        (fun ⟨a, y, us, hbare, h⟩ => ⟨a, y, us, hbare.append_right ys, h⟩) id
    · exact (hy.closed x hmem hlt).imp id fun h => h.imp
        (fun ⟨a, y, us, hbare, h⟩ => ⟨a, y, us, hbare.append_left, h⟩) id

/-- Nodes that all begin and end with tokens. -/
theorem of_forall (h : ∀ x ∈ xs, x.place.range.start < x.place.range.stop →
    (∃ t ∈ ts, t.OpensIn x.place.range) ∧ ∃ t ∈ ts, t.ClosesIn x.place.range) :
    c.Edged marks n xs ts (n + containers xs) :=
  ⟨rfl, fun x hx hlt => .inl (h x hx hlt).1, fun x hx hlt => .inl (h x hx hlt).2⟩

end Edged

variable {start stop : Nat}

/-! ## Leaves -/

/-- What a node that is one token is like: its place lies between two offsets, and so
does the token, if there is anything between them. -/
def Covered (c : Context) (p : Place) (ts : List Token) (start stop : Nat) : Prop :=
  (p.range.start = start ∧ p.range.stop = stop) ∧
    (start < stop → ∃ t ∈ ts, Token.IsPart t c.text start stop)

/-- A node that is one token begins and ends with it. -/
theorem Covered.ends {p : Place} (h : c.Covered p ts start stop)
    (hlt : p.range.start < p.range.stop) :
    (∃ t ∈ ts, t.OpensIn p.range) ∧ ∃ t ∈ ts, t.ClosesIn p.range := by
  obtain ⟨⟨hstart, hstop⟩, htoken⟩ := h
  obtain ⟨t, ht, hpart⟩ := htoken (by omega)
  exact ⟨⟨t, ht, hpart.opensIn (by omega) (by omega) (by omega)⟩,
    t, ht, hpart.closesIn (by omega) (by omega)⟩

/-- More tokens do no harm. -/
theorem Covered.append {p : Place} (h : c.Covered p ts start stop) (us : List Token) :
    c.Covered p (ts ++ us) start stop :=
  ⟨h.1, fun hlt => (h.2 hlt).imp fun _ ⟨ht, hpart⟩ => ⟨List.mem_append_left us ht, hpart⟩⟩

/-- **A token and a place** between the same offsets. -/
theorem ensures_covered {α : Type} (kind : TokenKind) (g : Place → α) :
    (c.token kind start stop >>= fun _ => c.place start stop >>= fun p =>
      (pure (g p) : Emission α)).Ensures fun v ts =>
        ∃ p, v = g p ∧ c.Covered p ts start stop := by
  refine Emission.Ensures.bind (ensures_token _) fun _ => ?_
  refine Emission.Ensures.bind ensures_place fun p => ?_
  refine Emission.ensures_pure ?_
  rintro us ⟨rfl, hstart, hstop⟩ ts hts
  refine ⟨p, rfl, ⟨Int.ofNat_inj.1 hstart, Int.ofNat_inj.1 hstop⟩, fun hlt => ?_⟩
  rw [if_pos (Int.ofNat_lt.2 hlt)] at hts
  obtain ⟨t, rfl, hpart⟩ := hts
  exact ⟨t, List.mem_cons_self, hpart⟩

/-- The name of an attribute is one token in either case. -/
theorem ensures_readKey (directive : Bool) {sign limit : Nat} (hsize : start < stop)
    (hname : c.text.Run isNameChar start stop) (hsign : stop ≤ sign)
    (hgap : c.text.Run NoName stop sign) :
    (c.readKey directive start sign limit).Ensures fun key ts =>
      c.Covered key.item.place ts start stop := by
  unfold readKey
  cases directive with
  | true =>
    rw [if_pos rfl, nameStop_eq hname hsize hsign hgap, Emission.ofExcept_ok, pure_bind]
    refine Emission.Ensures.bind (ensures_covered _ _) fun key => ?_
    refine Emission.ensures_pure ?_
    rintro ts ⟨p, rfl, hp⟩
    exact hp.append []
  | false =>
    rw [if_neg Bool.false_ne_true, nameBetween_eq hsize hname hsign hgap]
    refine Emission.Ensures.bind (ensures_covered _ _) fun name => ?_
    refine Emission.ensures_pure ?_
    rintro ts ⟨p, rfl, hp⟩
    exact hp.append []

/-- A run of literal text is one token. -/
theorem ensures_textRun :
    (c.textRun start stop).Ensures fun run ts => c.Covered run.place ts start stop :=
  (ensures_covered _ _).imp fun _ _ ⟨_, hv, hp⟩ => hv ▸ hp

/-- So is the value of a plain attribute. -/
theorem ensures_attributeValue (value : Text) :
    (c.attributeValue start stop value).Ensures fun v ts => c.Covered v.place ts start stop :=
  (ensures_covered _ _).imp fun _ _ ⟨_, hv, hp⟩ => hv ▸ hp

/-! ## Expressions -/

/-- **An expression between delimiters**: it begins and ends with them where there are
any, and where there are none its own tokens are all there is. -/
theorem counts_container {openSize closeSize : Nat} (h : start + openSize + closeSize ≤ stop)
    (hstop : stop ≤ c.text.length) :
    (c.container start stop openSize closeSize).Counts fun n y ts n' =>
      n' = n + 1 ∧ (y.place.range.start = start ∧ y.place.range.stop = stop) ∧
        (0 < openSize → ∃ t ∈ ts, t.OpensIn y.place.range) ∧
        (0 < closeSize → ∃ t ∈ ts, t.ClosesIn y.place.range) ∧
        (openSize = 0 → closeSize = 0 → ∀ t ∈ c.bareTokens y n, t ∈ ts) := by
  have hread : ∀ a b : Int, (c.reader.read a b).Counts fun n _ ts n' =>
      n' = n + 1 ∧ ts = Effect.tokens (c.reader.read a b n).effects := fun a b n v hv =>
    ⟨by rw [c.reader.asks_read a b n v hv], rfl⟩
  unfold container punctuator
  rw [show (start : Int) + openSize = (start + openSize : Nat) by omega,
    show (stop : Int) - closeSize = (stop - closeSize : Nat) by omega,
    codeBounds_eq (show start + openSize ≤ stop - closeSize by omega) (by omega)]
  refine Emission.Counts.bind ((ensures_token _).counts (c.asks_token _ _ _)) fun _ => ?_
  rw [Emission.ofExcept_ok, pure_bind]
  refine Emission.Counts.bind (hread _ _) fun outcome => ?_
  refine Emission.Counts.bind ((ensures_token _).counts (c.asks_token _ _ _)) fun _ => ?_
  refine Emission.Counts.bind (ensures_place.counts (c.asks_place _ _)) fun p => ?_
  refine Emission.counts_pure ?_
  rintro n3 n2 us ⟨rfl, rfl, hstart, hend⟩ n1 closing ⟨rfl, hclosing⟩ n inner ⟨rfl, rfl⟩ n0 opening
    ⟨rfl, hopening⟩
  have hstart := Int.ofNat_inj.1 hstart
  have hend := Int.ofNat_inj.1 hend
  refine ⟨rfl, ⟨hstart, hend⟩, fun hsize => ?_, fun hsize => ?_, fun hopen hclose t ht => ?_⟩
  · rw [if_pos (by omega)] at hopening
    obtain ⟨t, rfl, hpart⟩ := hopening
    refine ⟨t, List.mem_cons_self, hpart.opensIn ?_ ?_ ?_⟩
    · change (start : Int) = p.range.start
      omega
    · omega
    · change _ ≤ (p.range.stop : Int)
      omega
  · rw [if_pos (by omega)] at hclosing
    obtain ⟨t, rfl, hpart⟩ := hclosing
    refine ⟨t, by simp, hpart.closesIn ?_ ?_⟩
    · change (p.range.start : Int) ≤ _
      omega
    · change _ = (p.range.stop : Int)
      omega
  · subst hopen hclose
    unfold bareTokens at ht
    dsimp only at ht
    rw [hstart, hend] at ht
    exact List.mem_append_right _ (List.mem_append_left _ ht)

/-! ## Attributes -/

/-- What the value of an attribute is like: it begins and ends with tokens, or it is an
expression without quotes and all tokens of the expression are there. -/
structure Valued (c : Context) (v : AttributeContent) (n : Nat) (ts : List Token) (n' : Nat)
    (start stop : Nat) : Prop where
  place : v.item.place.range.start = start ∧ v.item.place.range.stop = stop
  asked : n' = n + containers [v.item]
  edges : start < stop →
    ((∃ t ∈ ts, t.OpensIn v.item.place.range) ∧ ∃ t ∈ ts, t.ClosesIn v.item.place.range) ∨
      ∃ y, v = .container y ∧ y.IsBare c.text ∧ ∀ t ∈ c.bareTokens y n, t ∈ ts

/-- More tokens do no harm. -/
theorem Valued.mono {v : AttributeContent} (h : c.Valued v n ts n' start stop)
    (hts : ∀ t ∈ ts, t ∈ us) : c.Valued v n us n' start stop := by
  refine ⟨h.place, h.asked, fun hlt => (h.edges hlt).imp ?_ ?_⟩
  · rintro ⟨⟨t, ht, hopen⟩, t', ht', hclose⟩
    exact ⟨⟨t, hts t ht, hopen⟩, t', hts t' ht', hclose⟩
  · rintro ⟨y, hy, hbare, htokens⟩
    exact ⟨y, hy, hbare, fun t ht => hts t (htokens t ht)⟩

/-- A token is found at an end of a value, or the value is bare and none of the tokens of
its expression stands there. -/
theorem Valued.found {v : AttributeContent} {P : Token → Range → Prop}
    (h : c.Valued v n ts n' start stop) (hlt : start < stop)
    (hP : ((∃ t ∈ ts, t.OpensIn v.item.place.range) ∧ ∃ t ∈ ts, t.ClosesIn v.item.place.range) →
      ∃ t ∈ ts, P t v.item.place.range) :
    (∃ t ∈ ts, P t v.item.place.range) ∨
      ∃ y, v = .container y ∧ y.IsBare c.text ∧ ∀ t ∈ c.bareTokens y n, ¬ P t y.place.range := by
  rcases h.edges hlt with hends | ⟨y, rfl, hbare, htokens⟩
  · exact .inl (hP hends)
  · by_cases hex : ∃ t ∈ c.bareTokens y n, P t y.place.range
    · obtain ⟨t, ht, hfound⟩ := hex
      exact .inl ⟨t, htokens t ht, hfound⟩
    · exact .inr ⟨y, rfl, hbare, fun t ht hfound => hex ⟨t, ht, hfound⟩⟩

/-- Where no quotes were found there are none. -/
theorem isBare_of_quoteSize {y : Container} (hy : y.place.range.start = start) (hlt : start < stop)
    (h : c.quoteSize start stop = .ok 0) : y.IsBare c.text := by
  intro q hq
  rw [hy] at hq
  unfold quoteSize at h
  rw [if_pos (Int.ofNat_lt.2 hlt), charAt_natCast hq] at h
  have hsize : (if q = '"' ∨ q = '\'' then 1 else 0) = 0 := Except.ok.inj h
  constructor
  · rintro rfl
    exact absurd hsize (by decide)
  · rintro rfl
    exact absurd hsize (by decide)

/-- **What follows an attribute's name** is a sign and a value, whose quotes have a
given size. -/
theorem counts_readContent (directive : Bool) (value : Text) {sign quotes : Nat}
    (hsign : sign < stop) (hlen : stop ≤ c.text.length)
    (hquotes : c.quoteSize (codeSpan c.text (sign + 1) stop).1 stop = .ok quotes)
    (hfits : (codeSpan c.text (sign + 1) stop).1 + quotes + quotes ≤ stop) :
    (c.readContent directive value sign stop).Counts fun n content ts n' =>
      ∃ v, content = some v ∧
        c.Valued v n ts n' (codeSpan c.text (sign + 1) stop).1 stop := by
  generalize hfirst : (codeSpan c.text (sign + 1) stop).1 = first at hquotes hfits ⊢
  unfold readContent attributeContent punctuator
  rw [if_pos (by omega), show (sign : Int) + 1 = (sign + 1 : Nat) by omega,
    skipBlanks_eq (show sign + 1 ≤ stop by omega) hlen, hfirst]
  refine Emission.Counts.bind ((ensures_token _).counts (c.asks_token _ _ _)) fun _ => ?_
  simp only [Emission.ofExcept_ok, pure_bind, hquotes]
  cases directive with
  | true =>
    simp only [if_true, bind_assoc, pure_bind]
    refine Emission.Counts.bind (counts_container hfits hlen) fun y => ?_
    refine Emission.counts_pure ?_
    rintro _ n us ⟨rfl, hplace, hopen, hclose, hbare⟩ _ ts ⟨rfl, -⟩
    refine ⟨.container y, rfl, hplace, rfl, fun hlt => ?_⟩
    simp only [List.append_nil]
    rcases Nat.eq_zero_or_pos quotes with rfl | hpos
    · exact .inr ⟨y, rfl, isBare_of_quoteSize hplace.1 hlt hquotes, fun t ht =>
        List.mem_append_right ts (hbare rfl rfl t ht)⟩
    · obtain ⟨t, ht, htopen⟩ := hopen hpos
      obtain ⟨t', ht', htclose⟩ := hclose hpos
      exact .inl ⟨⟨t, List.mem_append_right ts ht, htopen⟩,
        t', List.mem_append_right ts ht', htclose⟩
  | false =>
    simp only [Bool.false_eq_true, if_false, bind_assoc, pure_bind]
    refine Emission.Counts.bind ((ensures_attributeValue value).counts (c.asks_covered _ _ _ _))
      fun v => ?_
    refine Emission.counts_pure ?_
    rintro _ n us ⟨rfl, hcovered⟩ _ ts ⟨rfl, -⟩
    refine ⟨.literal v, rfl, hcovered.1, rfl, fun hlt => .inl ?_⟩
    obtain ⟨⟨t, ht, htopen⟩, t', ht', htclose⟩ := hcovered.ends (by
      rw [hcovered.1.1, hcovered.1.2]
      exact hlt)
    simp only [List.append_nil]
    exact ⟨⟨t, List.mem_append_right ts ht, htopen⟩,
      t', List.mem_append_right ts ht', htclose⟩

/-- **The nodes of an attribute without a value** are it and its name. -/
theorem Edged.of_name {a : Attribute}
    (hplace : a.place.range.start = start ∧ a.place.range.stop = stop)
    (hkey : c.Covered a.key.item.place ts start stop) (hcontent : a.content = none) :
    c.Edged marks n a.walk ts n := by
  have hcovered : c.Covered a.place ts start stop := ⟨hplace, hkey.2⟩
  have hnone : containers a.walk = 0 := by
    unfold Attribute.walk
    rw [hcontent]
    cases a.key <;> rfl
  have hforall : c.Edged marks n a.walk ts (n + containers a.walk) := by
    refine .of_forall fun x hx hlt => ?_
    unfold Attribute.walk at hx
    rw [hcontent] at hx
    rcases List.mem_cons.1 hx with rfl | hx
    · exact hcovered.ends hlt
    · obtain rfl := List.mem_singleton.1 hx
      exact hkey.ends hlt
  rwa [hnone] at hforall

/-- **The nodes of an attribute with a value** are it, its name and its value. -/
theorem Edged.of_value {a : Attribute} {v : AttributeContent} {nameEnd first : Nat}
    (hplace : a.place.range.start = start ∧ a.place.range.stop = stop)
    (hsize : start < nameEnd) (hle : nameEnd ≤ first)
    (hkey : c.Covered a.key.item.place ts start nameEnd) (hcontent : a.content = some v)
    (hvalued : c.Valued v n ts n' first stop) : c.Edged marks n a.walk ts n' := by
  obtain ⟨t, ht, hpart⟩ := hkey.2 hsize
  have hkeyEnds := hkey.ends (by
    rw [hkey.1.1, hkey.1.2]
    exact hsize)
  have hvle := v.item.place.range.start_le_stop
  obtain ⟨hvstart, hvstop⟩ := hvalued.place
  have hopens : t.OpensIn a.place.range := hpart.opensIn (by omega) (by omega) (by omega)
  have hwalk : a.walk = [.attr a, a.key.item, v.item] := by
    unfold Attribute.walk
    rw [hcontent]
    rfl
  have hbare : ∀ y, v = .container y → y.IsBare c.text →
      c.BareValue n [.attr a, a.key.item, v.item] a y (c.bareTokens y n) :=
    fun y hy hbare => ⟨0, rfl, by rw [hcontent, hy], hbare, rfl⟩
  rw [hwalk]
  refine ⟨?_, fun x hx hlt => ?_, fun x hx hlt => ?_⟩
  · rw [hvalued.asked]
    cases a.key <;> rfl
  · rcases List.mem_cons.1 hx with rfl | hx
    · exact .inl ⟨t, ht, hopens⟩
    · rcases List.mem_cons.1 hx with rfl | hx
      · exact .inl hkeyEnds.1
      · obtain rfl := List.mem_singleton.1 hx
        refine (hvalued.found (by omega) And.left).imp id ?_
        rintro ⟨y, rfl, hybare, hnone⟩
        exact ⟨a, y, _, hbare y rfl hybare, rfl, hnone⟩
  · rcases List.mem_cons.1 hx with rfl | hx
    · -- an attribute ends where its value does, if there is anything between the ends of that
      rcases Nat.lt_or_ge first stop with hfirst | hge
      · rcases hvalued.found hfirst And.right with ⟨u, hu, hclose⟩ | ⟨y, rfl, hybare, hnone⟩
        · refine .inl ⟨u, hu, hclose.1.trans (hvstop.trans hplace.2.symm), ?_⟩
          have := hclose.2
          change a.place.range.start ≤ u.range.start
          omega
        · exact .inr (.inl ⟨a, y, _, hbare y rfl hybare, .inl rfl, hnone⟩)
      · exact .inr (.inr (.inl ⟨a, v, rfl, hcontent, by omega⟩))
    · rcases List.mem_cons.1 hx with rfl | hx
      · exact .inl hkeyEnds.2
      · obtain rfl := List.mem_singleton.1 hx
        rcases hvalued.found (by omega) And.right with hclose | ⟨y, rfl, hybare, hnone⟩
        · exact .inl hclose
        · exact .inr (.inl ⟨a, y, _, hbare y rfl hybare, .inr rfl, hnone⟩)

/-- **An attribute.** -/
theorem counts_readAttribute (marks : List Mark) {x : Markup.Attribute}
    (hstart : x.mark.start = start) (hstop : x.mark.stop = stop)
    (h : Markup.AttributeAt c.text start stop) :
    (c.readAttribute x).Counts fun n a ts n' => c.Edged marks n a.walk ts n' := by
  cases h with
  | name size chars =>
    rw [readAttribute_eq stop hstart hstop (by rw [find?_of_name size chars]; rfl), readContent,
      if_neg (not_not_intro rfl)]
    refine Emission.Counts.bind ((ensures_readKey _ size chars (Nat.le_refl _)
      (Text.run_self _ _ _)).counts (c.asks_readKey _ _ _ _)) fun key => ?_
    rw [pure_bind]
    refine Emission.Counts.bind (ensures_place.counts (c.asks_place _ _)) fun p => ?_
    refine Emission.counts_pure ?_
    rintro _ _ us ⟨rfl, rfl, hpstart, hpstop⟩ n ts ⟨rfl, hkey⟩
    exact .of_name ⟨Int.ofNat_inj.1 hpstart, Int.ofNat_inj.1 hpstop⟩ (hkey.append _) rfl
  | @assigned nameEnd sign value size chars before blankBefore equals after blankAfter content =>
    obtain ⟨hvalue, hlen⟩ := content.lt
    obtain ⟨quotes, hquotes, hfits, -⟩ := exists_quoteSize after blankAfter content
    have hsome := find?_of_assigned size chars before blankBefore equals
      (show sign < stop by omega) hlen
    have hfirst := (codeSpan_spec (show sign + 1 ≤ stop by omega) hlen).1
    rw [readAttribute_eq sign hstart hstop (by rw [hsome]; rfl)]
    refine Emission.Counts.bind ((ensures_readKey _ size chars before
      (blankBefore.imp fun d => noName_of_isAsciiSpace)).counts (c.asks_readKey _ _ _ _))
        fun key => ?_
    refine Emission.Counts.bind (counts_readContent _ x.value (by omega) hlen hquotes hfits)
      fun v => ?_
    refine Emission.Counts.bind (ensures_place.counts (c.asks_place _ _)) fun p => ?_
    refine Emission.counts_pure ?_
    rintro _ n' us ⟨rfl, rfl, hpstart, hpstop⟩ mid vs ⟨v, rfl, hvalued⟩ n ts ⟨rfl, hkey⟩
    exact .of_value ⟨Int.ofNat_inj.1 hpstart, Int.ofNat_inj.1 hpstop⟩ size (by omega)
      (hkey.append _) rfl (hvalued.mono fun t ht => by simp [ht])

/-- **Several attributes.** -/
theorem counts_attributes (marks : List Mark) {as : List Markup.Attribute} {last : Nat}
    (h : Markup.AttributesAt c.text start as last) :
    (c.attributes as).Counts fun n vs ts n' =>
      c.Edged marks n (vs.flatMap Attribute.walk) ts n' := by
  induction h with
  | nil start => exact Emission.counts_pure fun n => .nil []
  | cons starts stops space blank spelled rest ih =>
    refine Emission.Counts.bind (counts_readAttribute marks starts stops spelled) fun v => ?_
    refine Emission.Counts.bind ih fun vs => ?_
    refine Emission.counts_pure ?_
    intro n' mid us hvs n ts hv
    rw [List.flatMap_cons]
    exact (hv.mono fun t ht => List.mem_append_left _ ht).append
      (hvs.mono fun t ht => by simp [ht])

end Context

end Template

end SingleFile
