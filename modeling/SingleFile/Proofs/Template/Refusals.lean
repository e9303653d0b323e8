import SingleFile.Proofs.Template.Coverage
import SingleFile.Proofs.Template.Runs
import SingleFile.Proofs.Template.Transcript

/-!
# Templates — when the script reader refuses some texts

A script reader may come to refuse texts that it accepted before. What
the template is read to then differs at the expressions with these texts
and nowhere else: they carry the error, and what was emitted for them is
missing. No visitor reads back what an expression emitted, and tokens in
order stay in order when some are left out, so a transformation that
returned still returns (`returns_refusing`).
-/

namespace SingleFile

namespace Template

/-- The context whose script reader refuses some texts. -/
def Context.refusing (c : Context) (errors : Text → Option SyntaxError) : Context :=
  { c with reader := c.reader.refusing errors }

namespace Context

variable {c : Context} {errors : Text → Option SyntaxError}

/-! ## Expressions -/

/-- A place that is found emits nothing and lies in the source. -/
theorem place_eq_pure (hc : c.Indexed) {start stop : Int} {n : Nat} {p : Place}
    (h : (c.place start stop n).result = .ok p) :
    c.place start stop = pure p ∧ (p.range.start : Int) = start ∧ (p.range.stop : Int) = stop ∧
      p.range.stop ≤ c.text.length := by
  obtain ⟨-, hstart, hstop⟩ := ensures_place n p h
  rw [← hstart, ← hstop] at h
  unfold place at h
  rw [Range.ofBounds_natCast p.range.start_le_stop, Emission.ofBreach_ok, pure_bind] at h
  obtain ⟨l, hl, hp⟩ := Emission.result_bind_eq_ok_iff.1 h
  have hl : c.reader.index.location p.range.start p.range.stop = .ok l :=
    Failure.ofBreach_eq_ok_iff.1 hl
  have hp : ⟨p.range, l⟩ = p := Except.ok.inj hp
  refine ⟨?_, hstart, hstop, ?_⟩
  · unfold place
    rw [← hstart, ← hstop, Range.ofBounds_natCast p.range.start_le_stop, Emission.ofBreach_ok,
      pure_bind, hl, Emission.ofBreach_ok, pure_bind, hp]
  · rw [hc] at hl
    exact (LineIndex.location_ofText_eq_ok_iff.1 hl).2.1

/-- **The code of an expression** that is read stands between its delimiters. Where these
overlap, the reading would begin behind its end. -/
theorem codeBounds_eq_code {x : Delimited} {first last : Int}
    (hstop : x.container.place.range.stop ≤ c.text.length)
    (h : c.codeBounds ((x.container.place.range.start : Int) + x.openSize)
      ((x.container.place.range.stop : Int) - x.closeSize) = .ok (first, last))
    (hle : first ≤ last) :
    first = (x.code c.text).1 ∧ last = (x.code c.text).2 := by
  by_cases hfits : x.container.place.range.start + x.openSize ≤
      x.container.place.range.stop - x.closeSize ∧ x.closeSize ≤ x.container.place.range.stop
  · rw [show (x.container.place.range.start : Int) + x.openSize =
        (x.container.place.range.start + x.openSize : Nat) by omega,
      show (x.container.place.range.stop : Int) - x.closeSize =
        (x.container.place.range.stop - x.closeSize : Nat) by omega,
      codeBounds_eq hfits.1 (by omega)] at h
    cases h
    exact ⟨rfl, rfl⟩
  · -- nothing is scanned, and the code would end before it starts
    have hzero : ((x.container.place.range.stop : Int) - x.closeSize -
        (x.container.place.range.start + x.openSize)).toNat = 0 := by omega
    simp only [codeBounds, hzero, skipUp, skipDown, bind, Except.bind, pure, Except.pure,
      Except.ok.injEq, Prod.mk.injEq] at h
    omega

/-- **The reading of an expression** is a part of a transcript by itself. -/
theorem revises_read {p : Place} {openSize closeSize : Nat} {first last : Int}
    (hstop : p.range.stop ≤ c.text.length)
    (hcode : c.codeBounds ((p.range.start : Int) + openSize) ((p.range.stop : Int) - closeSize) =
      .ok (first, last)) :
    Emission.Revises c.reader errors (c.reader.read first last)
      ((c.reader.refusing errors).read first last) fun o o' xs =>
        xs = [⟨⟨p, o⟩, openSize, closeSize⟩] ∧ o' = (Delimited.revise ⟨⟨p, o⟩, openSize, closeSize⟩
          c.reader errors).container.outcome := by
  intro n o ho
  have hread : c.reader.read first last n = ⟨(c.reader.read first last n).effects, .ok o⟩ := by
    rw [← ho]
  generalize (c.reader.read first last n).effects = es at hread
  have hadmits : c.reader.Admits first last := (ExpressionReader.admitted_of_read ho).1
  let x : Delimited := ⟨⟨p, o⟩, openSize, closeSize⟩
  obtain ⟨rfl, rfl⟩ := codeBounds_eq_code (x := x) hstop hcode hadmits.2.1
  have hreading : x.reading c.reader n = ⟨es, .ok x.container.outcome⟩ := hread
  refine ⟨[.expression x es], _, ⟨hreading, trivial⟩, ?_, ?_, rfl, rfl⟩
  · exact (List.append_nil es).symm
  · rw [List.map_singleton]
    unfold Part.effectsAll
    rw [List.flatMap_singleton]
    exact ExpressionReader.reading_refusing hreading

/-- What holds of an expression between its delimiters and of the one with other texts refused. -/
def RevisedContainer (c : Context) (errors : Text → Option SyntaxError) (start stop : Int)
    (openSize closeSize : Nat) (k k' : Container) (xs : List Delimited) : Prop :=
  (k.place.range.start : Int) = start ∧ (k.place.range.stop : Int) = stop ∧
    xs = [⟨k, openSize, closeSize⟩] ∧
    k' = (Delimited.revise ⟨k, openSize, closeSize⟩ c.reader errors).container

/-- **An expression between its delimiters**, at a place that is found. -/
theorem revises_container_of_place {p : Place} {openSize closeSize : Nat}
    (hstop : p.range.stop ≤ c.text.length)
    (hplace : c.place p.range.start p.range.stop = pure p) :
    Emission.Revises c.reader errors (c.container p.range.start p.range.stop openSize closeSize)
      ((c.refusing errors).container p.range.start p.range.stop openSize closeSize)
      (c.RevisedContainer errors p.range.start p.range.stop openSize closeSize) := by
  have hplace' : (c.refusing errors).place p.range.start p.range.stop = pure p := hplace
  unfold container
  rw [hplace, hplace']
  refine Emission.Asks.revises_bind (c.asks_token _ _ _) fun _ => ?_
  refine Emission.revises_ofExcept_bind fun span hcode => ?_
  obtain ⟨first, last⟩ := span
  refine Emission.Revises.bind (revises_read hstop hcode) fun o o' xs ho => ?_
  obtain ⟨rfl, rfl⟩ := ho
  refine Emission.Asks.revises_bind (c.asks_token _ _ _) fun _ => ?_
  rw [pure_bind, pure_bind]
  refine Emission.revises_pure ⟨rfl, rfl, rfl, ?_⟩
  unfold Delimited.revise
  split <;> rfl

/-- And so at any: without its place there is no expression. -/
theorem revises_container (hc : c.Indexed) (start stop : Int) (openSize closeSize : Nat) :
    Emission.Revises c.reader errors (c.container start stop openSize closeSize)
      ((c.refusing errors).container start stop openSize closeSize)
      (c.RevisedContainer errors start stop openSize closeSize) := by
  intro n k hk
  have hplace : ∃ m p, (c.place start stop m).result = .ok p := by
    unfold container at hk
    obtain ⟨_, -, hk⟩ := Emission.result_bind_eq_ok_iff.1 hk
    obtain ⟨_, -, hk⟩ := Emission.result_bind_eq_ok_iff.1 hk
    obtain ⟨_, -, hk⟩ := Emission.result_bind_eq_ok_iff.1 hk
    obtain ⟨_, -, hk⟩ := Emission.result_bind_eq_ok_iff.1 hk
    obtain ⟨p, hp, -⟩ := Emission.result_bind_eq_ok_iff.1 hk
    exact ⟨_, p, hp⟩
  obtain ⟨m, p, hp⟩ := hplace
  obtain ⟨hpure, rfl, rfl, hstop⟩ := place_eq_pure hc hp
  exact revises_container_of_place hstop hpure n k hk

/-! ## Attributes -/

/-- The quotes that were found around an expression are those that the tree shows. -/
theorem quotes_of_quoteSize {k : Container} {size : Nat}
    (h : c.quoteSize k.place.range.start k.place.range.stop = .ok size) :
    k.quotes c.text = size := by
  unfold Container.quotes
  unfold quoteSize at h
  by_cases hlt : k.place.range.start < k.place.range.stop
  · rw [if_pos (Int.ofNat_lt.2 hlt)] at h
    cases hchar : c.text[k.place.range.start]? with
    | none =>
      rw [charAt, Text.at?_natCast, hchar] at h
      cases h
    | some d =>
      rw [charAt_natCast hchar] at h
      have hsize : (if d = '"' ∨ d = '\'' then 1 else 0) = size := Except.ok.inj h
      simpa only [hlt, true_and, Option.some.injEq] using hsize
  · rw [if_neg fun hlt' => hlt (Int.ofNat_lt.1 hlt')] at h
    rw [if_neg fun h' => hlt h'.1]
    exact Except.ok.inj h

/-- The expression of a tree when some texts are refused. -/
def reviser (c : Context) (errors : Text → Option SyntaxError) (x : Delimited) : Delimited :=
  x.revise c.reader errors

/-- What holds of a value that a reading returns and of the one with other texts refused. -/
def Revised {α : Type} (get : α → List Delimited) (set : α → α) (v v' : α)
    (xs : List Delimited) : Prop :=
  get v = xs ∧ v' = set v

/-- **The value of an attribute.** -/
theorem revises_attributeContent (hc : c.Indexed) (isDirective : Bool) (value : Text)
    (start stop : Int) :
    Emission.Revises c.reader errors (c.attributeContent isDirective value start stop)
      ((c.refusing errors).attributeContent isDirective value start stop)
      (Revised (AttributeContent.expressions c.text)
        (AttributeContent.revise c.text (c.reviser errors))) := by
  unfold attributeContent
  refine Emission.revises_ofExcept_bind fun first _ => ?_
  refine Emission.revises_ofExcept_bind fun size hsize => ?_
  cases isDirective with
  | true =>
    refine Emission.Revises.bind (revises_container hc first stop size size) fun k k' xs hk => ?_
    obtain ⟨rfl, rfl, rfl, rfl⟩ := hk
    refine Emission.revises_pure ?_
    rw [← quotes_of_quoteSize hsize]
    exact ⟨rfl, rfl⟩
  | false =>
    refine Emission.Asks.revises_bind (c.asks_covered _ _ _ _) fun v => ?_
    exact Emission.revises_pure ⟨rfl, rfl⟩

/-- What follows the name of an attribute. -/
theorem revises_readContent (hc : c.Indexed) (isDirective : Bool) (value : Text)
    (sign stop : Int) :
    Emission.Revises c.reader errors (c.readContent isDirective value sign stop)
      ((c.refusing errors).readContent isDirective value sign stop)
      (Revised (fun v => v.toList.flatMap (AttributeContent.expressions c.text))
        (Option.map (AttributeContent.revise c.text (c.reviser errors)))) := by
  unfold readContent
  by_cases h : sign ≠ stop
  · rw [if_pos h, if_pos h]
    refine Emission.Asks.revises_bind (c.asks_token _ _ _) fun _ => ?_
    refine Emission.Revises.bind (revises_attributeContent hc isDirective value (sign + 1) stop)
      fun v v' xs hv => ?_
    obtain ⟨rfl, rfl⟩ := hv
    refine Emission.revises_pure ⟨?_, rfl⟩
    simp
  · rw [if_neg h, if_neg h]
    exact Emission.revises_pure ⟨rfl, rfl⟩

/-- **An attribute.** -/
theorem revises_readAttribute (hc : c.Indexed) (a : Markup.Attribute) :
    Emission.Revises c.reader errors (c.readAttribute a) ((c.refusing errors).readAttribute a)
      (Revised (Attribute.expressions c.text) (Attribute.revise c.text (c.reviser errors))) := by
  rw [readAttribute_bind a rfl, readAttribute_bind a rfl]
  refine Emission.Asks.revises_bind (c.asks_readKey _ _ _ _) fun key => ?_
  refine Emission.Revises.bind (revises_readContent hc _ _ _ _) fun v v' xs hv => ?_
  obtain ⟨rfl, rfl⟩ := hv
  refine Emission.Asks.revises_bind (c.asks_place _ _) fun p => ?_
  exact Emission.revises_pure ⟨(List.append_nil _).symm, rfl⟩

/-- **Several attributes.** -/
theorem revises_attributes (hc : c.Indexed) (as : List Markup.Attribute) :
    Emission.Revises c.reader errors (c.attributes as) ((c.refusing errors).attributes as)
      (Revised (List.flatMap (Attribute.expressions c.text))
        (List.map (Attribute.revise c.text (c.reviser errors)))) := by
  induction as with
  | nil => exact Emission.revises_pure ⟨rfl, rfl⟩
  | cons a as ih =>
    refine Emission.Revises.bind (revises_readAttribute hc a) fun v v' xs hv => ?_
    refine Emission.Revises.bind ih fun vs vs' ys hvs => ?_
    obtain ⟨rfl, rfl⟩ := hv
    obtain ⟨rfl, rfl⟩ := hvs
    exact Emission.revises_pure ⟨by simp, rfl⟩

/-- **A start tag** and its attributes. -/
theorem revises_openingTag (hc : c.Indexed) (mark : Markup.ElementMark)
    (as : List Markup.Attribute) :
    Emission.Revises c.reader errors (c.openingTag mark as) ((c.refusing errors).openingTag mark as)
      (Revised (fun v => v.2.flatMap (Attribute.expressions c.text))
        (fun v => (v.1, v.2.map (Attribute.revise c.text (c.reviser errors))))) := by
  unfold openingTag
  refine Emission.revises_ofExcept_bind fun isSelfClosing _ => ?_
  refine Emission.Asks.revises_bind (c.asks_token _ _ _) fun _ => ?_
  refine Emission.Asks.revises_bind (c.asks_tagName _ _) fun _ => ?_
  refine Emission.Revises.bind (revises_attributes hc as) fun vs vs' xs hvs => ?_
  obtain ⟨rfl, rfl⟩ := hvs
  refine Emission.Asks.revises_bind (c.asks_token _ _ _) fun _ => ?_
  refine Emission.Asks.revises_bind (c.asks_place _ _) fun p => ?_
  exact Emission.revises_pure ⟨(List.append_nil _).symm, rfl⟩

/-! ## Entries -/

/-- A run of text, split at its interpolations. -/
theorem revises_runs (hc : c.Indexed) (cursor stop : Int) (spans : List (Nat × Nat)) :
    Emission.Revises c.reader errors (c.runs cursor stop spans)
      ((c.refusing errors).runs cursor stop spans)
      (Revised (Node.expressionsAll c) (Node.reviseAll c (c.reviser errors))) := by
  have htext (start stop : Int) : Emission.Revises c.reader errors
      (c.textRun start stop >>= fun run => pure [Node.text run])
      ((c.refusing errors).textRun start stop >>= fun run => pure [Node.text run])
      (Revised (Node.expressionsAll c) (Node.reviseAll c (c.reviser errors))) :=
    Emission.Asks.revises_bind (c.asks_covered _ _ _ _) fun run =>
      Emission.revises_pure ⟨rfl, rfl⟩
  induction spans generalizing cursor with
  | nil =>
    unfold runs
    by_cases h : cursor < stop
    · rw [if_pos h, if_pos h]
      exact htext cursor stop
    · rw [if_neg h, if_neg h]
      exact Emission.revises_pure ⟨rfl, rfl⟩
  | cons span rest ih =>
    obtain ⟨first, last⟩ := span
    rw [runs_cons, runs_cons]
    have hbefore : Emission.Revises c.reader errors
        (if cursor < first then c.textRun cursor first >>= fun run => pure [Node.text run]
          else pure [])
        (if cursor < first then (c.refusing errors).textRun cursor first >>= fun run =>
          pure [Node.text run] else pure [])
        (Revised (Node.expressionsAll c) (Node.reviseAll c (c.reviser errors))) := by
      split
      · exact htext cursor first
      · exact Emission.revises_pure ⟨rfl, rfl⟩
    refine Emission.Revises.bind hbefore fun vs vs' xs hvs => ?_
    refine Emission.Revises.bind (revises_container hc first last _ _) fun k k' ys hk => ?_
    refine Emission.Revises.bind (ih last) fun ws ws' zs hws => ?_
    obtain ⟨rfl, rfl⟩ := hvs
    obtain ⟨-, -, rfl, rfl⟩ := hk
    obtain ⟨rfl, rfl⟩ := hws
    refine Emission.revises_pure ⟨?_, ?_⟩
    · rw [Node.expressionsAll_append, Node.expressionsAll, Node.expressions, List.append_nil]
    · rw [Node.reviseAll_append, Node.reviseAll, Node.revise]
      rfl

/-- A comment hands over nothing. -/
theorem asks_readComment (data : Text) (m : Mark) : (c.readComment data m).Asks 0 := by
  have hemit (p : Place) : (Emission.emit (.comment ⟨p, .htmlComment, data⟩)).Asks 0 :=
    fun _ _ _ => rfl
  exact (c.asks_place _ _).bind hemit

mutual
/-- **An entry.** -/
theorem revises_visit (hc : c.Indexed) : ∀ e : Markup.Entry,
    Emission.Revises c.reader errors (c.visit e) ((c.refusing errors).visit e)
      (Revised (Node.expressionsAll c) (Node.reviseAll c (c.reviser errors)))
  | .text m => revises_runs hc _ _ _
  | .comment data m => by
    unfold visit
    exact Emission.Asks.revises_bind (c.asks_readComment data m) fun _ =>
      Emission.revises_pure ⟨rfl, rfl⟩
  | .other name m => by
    unfold visit
    exact Emission.Asks.revises_bind (fun _ _ _ => rfl) fun _ =>
      Emission.revises_pure ⟨rfl, rfl⟩
  | .element name mark as children content => by
    rw [visit_element, visit_element]
    have hinner : Emission.Revises c.reader errors (c.visitAll (content.getD children))
        ((c.refusing errors).visitAll (content.getD children))
        (Revised (Node.expressionsAll c) (Node.reviseAll c (c.reviser errors))) := by
      cases content with
      | some entries => exact revises_visitAll hc entries
      | none => exact revises_visitAll hc children
    refine Emission.Revises.bind (revises_openingTag hc mark as) fun v v' xs hv => ?_
    refine Emission.Revises.bind hinner fun ws ws' ys hws => ?_
    obtain ⟨rfl, rfl⟩ := hv
    obtain ⟨rfl, rfl⟩ := hws
    refine Emission.Asks.revises_bind (c.asks_closingTag mark) fun closing => ?_
    refine Emission.Asks.revises_bind (c.asks_place _ _) fun p => ?_
    refine Emission.revises_pure ⟨?_, ?_⟩
    · rw [Node.expressionsAll, Node.expressionsAll, Node.expressions, List.append_nil,
        List.append_nil]
    · rw [Node.reviseAll, Node.reviseAll, Node.revise]
  | .fragment _ | .document _ => by
    unfold visit
    intro n v hv
    cases hv

/-- **Several entries.** -/
theorem revises_visitAll (hc : c.Indexed) : ∀ es : List Markup.Entry,
    Emission.Revises c.reader errors (c.visitAll es) ((c.refusing errors).visitAll es)
      (Revised (Node.expressionsAll c) (Node.reviseAll c (c.reviser errors)))
  | [] => Emission.revises_pure ⟨rfl, rfl⟩
  | e :: es => by
    rw [visitAll, visitAll]
    refine Emission.Revises.bind (revises_visit hc e) fun vs vs' xs hvs => ?_
    refine Emission.Revises.bind (revises_visitAll hc es) fun ws ws' ys hws => ?_
    obtain ⟨rfl, rfl⟩ := hvs
    obtain ⟨rfl, rfl⟩ := hws
    refine Emission.revises_pure ⟨?_, ?_⟩
    · rw [Node.expressionsAll_append, List.append_nil]
    · rw [Node.reviseAll_append]
end

/-- **A document** is read to the same tree, except for the expressions with texts that are
refused. -/
theorem revises_readDocument (hc : c.Indexed) (errors : Text → Option SyntaxError)
    (es : List Markup.Entry) :
    Emission.Revises c.reader errors (c.readDocument es) ((c.refusing errors).readDocument es)
      (Revised (Document.expressions c) (Document.revise c (c.reviser errors))) := by
  unfold readDocument
  refine Emission.Revises.bind (revises_visitAll hc es) fun vs vs' xs hvs => ?_
  obtain ⟨rfl, rfl⟩ := hvs
  refine Emission.Asks.revises_bind (c.asks_place _ _) fun p => ?_
  exact Emission.revises_pure ⟨(List.append_nil _).symm, rfl⟩

end Context

/-! ## What is left of a transcript -/

namespace Part

variable {r : ExpressionReader} {errors : Text → Option SyntaxError}

/-- Whether a part is an expression with the given text. -/
def isOf (r : ExpressionReader) (text : Text) (p : Part) : Bool :=
  p.expression?.any fun x => x.surrogate? r == some text

/-- Whether a part stays as it is when some texts are refused. -/
def stays (r : ExpressionReader) (errors : Text → Option SyntaxError) (p : Part) : Bool :=
  p.expression?.all fun x => (x.refusal? r errors).isNone

/-- **What is left of a transcript** when some texts are refused: of what is neither a text
handed over nor an event, all that the parts emitted that stay. -/
theorem filterMap_effectsAll_revise {β : Type} {pick : Effect → Option β}
    (hasked : ∀ text, pick (.asked text) = none) (hevent : ∀ e, pick (.event e) = none)
    (ps : List Part) :
    (effectsAll (ps.map (Part.revise r errors))).filterMap pick =
      (effectsAll (ps.filter (stays r errors))).filterMap pick := by
  induction ps with
  | nil => rfl
  | cons p ps ih =>
    have hstep (es : List Effect) :
        (es ++ effectsAll (ps.map (Part.revise r errors))).filterMap pick =
          (es ++ effectsAll (ps.filter (stays r errors))).filterMap pick := by
      rw [List.filterMap_append, List.filterMap_append, ih]
    cases p with
    | markup e => exact hstep [e]
    | expression x es =>
      cases hrefusal : x.refusal? r errors with
      | none =>
        have hrevise : Part.revise r errors (.expression x es) = .expression x es := by
          simp only [Part.revise, Delimited.revise, hrefusal]
        have hstays : stays r errors (.expression x es) = true := by
          simp [stays, expression?, hrefusal]
        rw [List.map_cons, hrevise, List.filter_cons_of_pos hstays]
        exact hstep es
      | some e =>
        have hrevise : Part.revise r errors (.expression x es) =
            .expression (x.rejected e) (x.rejection r e) := by
          simp only [Part.revise, Delimited.revise, hrefusal]
        have hstays : ¬ stays r errors (.expression x es) = true := by
          simp [stays, expression?, hrefusal]
        have hnone : (x.rejection r e).filterMap pick = [] := by
          unfold Delimited.rejection
          cases x.surrogate? r <;> simp [hasked, hevent]
        rw [List.map_cons, hrevise, List.filter_cons_of_neg hstays, ← ih]
        change (x.rejection r e ++ effectsAll (ps.map (Part.revise r errors))).filterMap pick = _
        rw [List.filterMap_append, hnone, List.nil_append]

/-- The tokens of the parts that stay are left. -/
theorem tokens_effectsAll_revise (r : ExpressionReader) (errors : Text → Option SyntaxError)
    (ps : List Part) :
    Effect.tokens (effectsAll (ps.map (Part.revise r errors))) =
      Effect.tokens (effectsAll (ps.filter (stays r errors))) :=
  filterMap_effectsAll_revise (fun _ => rfl) (fun _ => rfl) ps

/-- And so are their comments. -/
theorem comments_effectsAll_revise (r : ExpressionReader) (errors : Text → Option SyntaxError)
    (ps : List Part) :
    Effect.comments (effectsAll (ps.map (Part.revise r errors))) =
      Effect.comments (effectsAll (ps.filter (stays r errors))) :=
  filterMap_effectsAll_revise (fun _ => rfl) (fun _ => rfl) ps

/-- The effects of some of the parts are some of the effects. -/
theorem effectsAll_filter_sublist (keep : Part → Bool) (ps : List Part) :
    (effectsAll (ps.filter keep)).Sublist (effectsAll ps) := by
  induction ps with
  | nil => exact .slnil
  | cons p ps ih =>
    by_cases hp : keep p = true
    · rw [List.filter_cons_of_pos hp]
      exact (List.Sublist.refl p.effects).append ih
    · rw [List.filter_cons_of_neg hp]
      exact ih.trans (List.sublist_append_right p.effects _)

end Part

/-! ## Transformations -/

/-- The errors that refuse one text and no other. -/
def refuseOnly (text : Text) (e : SyntaxError) (other : Text) : Option SyntaxError :=
  if other = text then some e else none

/-- An expression is refused when it has this text. -/
theorem refusal?_refuseOnly (x : Delimited) (r : ExpressionReader) (text : Text)
    (e : SyntaxError) :
    x.refusal? r (refuseOnly text e) = if x.surrogate? r = some text then some e else none := by
  unfold Delimited.refusal?
  cases x.surrogate? r with
  | none => rfl
  | some other =>
    rw [Option.bind_some, refuseOnly]
    simp only [Option.some.injEq]

/-- **A rejected expression stays alone.** Take a template that is transformed with some script
reader, and let the reader come to reject one text. The template is transformed again. What it
was transformed to has a transcript, which lists its expressions in the order of the tree with
what was emitted for each; the new tree is the old one with the error in every expression that
has the text, and the tokens and comments are the old ones, in their order, without those of
these expressions. -/
theorem transform_rejecting {entries : List Markup.Entry} {text : Text} {p : ScriptParser}
    {settings : TemplateSettings} {result : Result}
    (h : (transform entries text p settings).2 = .ok result) (u : Text) (e : SyntaxError) :
    let c := Context.ofSettings text p settings transformerName
    ∃ parts result',
      (transform entries text (fun n t => if t = u then .error (.syntaxError e) else p n t)
        settings).2 = .ok result' ∧
      (c.reader.Transcribes 0 parts ∧ Part.expressions parts = result.root.expressions c ∧
        result.store.tokens = Effect.tokens (Part.effectsAll parts) ∧
        result.comments = Effect.comments (Part.effectsAll parts)) ∧
      result'.root = result.root.revise c
        (fun x => if x.surrogate? c.reader = some u then x.rejected e else x) ∧
      result'.store.tokens = Effect.tokens (Part.effectsAll
        (parts.filter fun part => !part.isOf c.reader u)) ∧
      result'.store.isSealed = result.store.isSealed ∧
      result'.comments = Effect.comments (Part.effectsAll
        (parts.filter fun part => !part.isOf c.reader u)) := by
  intro c
  have hparser : (fun n t => if t = u then .error (.syntaxError e) else p n t : ScriptParser) =
      p.refusing (refuseOnly u e) := by
    funext n t
    unfold ScriptParser.refusing refuseOnly
    split <;> rfl
  have hstays : (Part.stays c.reader (refuseOnly u e)) = fun part => !part.isOf c.reader u := by
    funext part
    unfold Part.stays Part.isOf
    cases part.expression? with
    | none => rfl
    | some x =>
      simp only [Option.all_some, Option.any_some, refusal?_refuseOnly]
      by_cases hx : x.surrogate? c.reader = some u <;> simp [hx]
  have hreviser : c.reviser (refuseOnly u e) =
      fun x => if x.surrogate? c.reader = some u then x.rejected e else x := by
    funext x
    unfold Context.reviser Delimited.revise
    rw [refusal?_refuseOnly]
    split <;> simp_all
  obtain ⟨hroot, hordered, htokens, hsealed, hcomments⟩ := Transformer.transform_start_eq_ok_iff.1 h
  obtain ⟨parts, root', htranscribes, heffects, hrun, hexpressions, hroot'⟩ :=
    Context.revises_readDocument (c := c) rfl (refuseOnly u e) entries 0 _ hroot
  have heffects' : (c.readDocument entries ([] : List Text).length).effects =
      Part.effectsAll parts := heffects
  rw [heffects'] at hordered htokens hcomments
  have hleft := Part.tokens_effectsAll_revise c.reader (refuseOnly u e) parts
  have hleft' := Part.comments_effectsAll_revise c.reader (refuseOnly u e) parts
  rw [hstays] at hleft hleft'
  -- tokens in order stay in order when some of them are left out
  have hordered' : (Effect.tokens (Part.effectsAll
      (parts.filter fun part => !part.isOf c.reader u))).Pairwise Token.Before :=
    hordered.sublist ((Part.effectsAll_filter_sublist _ parts).filterMap _)
  refine ⟨parts, ⟨root', .closed _ hordered', _⟩, ?_, ⟨htranscribes, hexpressions.symm, htokens,
    hcomments⟩, hreviser ▸ hroot', rfl, hsealed.symm, rfl⟩
  rw [hparser]
  refine Transformer.transform_start_eq_ok_iff.2 ?_
  change ((c.refusing (refuseOnly u e)).readDocument entries 0).result = _ ∧
    (Effect.tokens ((c.refusing (refuseOnly u e)).readDocument entries 0).effects).Pairwise _ ∧
    _ = Effect.tokens ((c.refusing (refuseOnly u e)).readDocument entries 0).effects ∧ _ ∧
    _ = Effect.comments ((c.refusing (refuseOnly u e)).readDocument entries 0).effects
  rw [hrun]
  exact ⟨rfl, hleft ▸ hordered', hleft.symm, rfl, hleft'.symm⟩

/-! ## Two names -/

namespace TwoNames

/-- A paragraph around two interpolations. -/
def text : Text := "<p>\x7b\x7ba\x7d\x7d\x7b\x7bb\x7d\x7d</p>".toList

/-- Its element. -/
def element : Markup.Entry :=
  .element ['p'] ⟨⟨0, 17, 1, 1⟩, some ⟨0, 3, 1, 1⟩, some ⟨13, 17, 1, 14⟩⟩ [] [.text ⟨3, 13, 1, 4⟩]
    none

/-- The reader that accepts a name of one character in parentheses. -/
def parser : ScriptParser := .ofFunction fun text =>
  match text.dropWhile (· == ' ') with
  | ['(', name, ')'] =>
    .ok (OneText.program name (text.length - 3) text.length [] (Nat.sub_le _ _))
  | _ => .error (.syntaxError ⟨"Unexpected token", 0, ⟨1, 0⟩⟩)

/-- The text that is handed over for the first name. -/
def first : Text := "    (a)".toList

/-- The error that it comes to be rejected with. -/
def rejection : SyntaxError := ⟨"Reserved", 5, ⟨1, 5⟩⟩

/-- The same reader when it rejects that text. -/
def rejecting : ScriptParser := fun n t =>
  if t = first then .error (.syntaxError rejection) else parser n t

end TwoNames

/-- When the first of two names is rejected, its token alone is missing, and the other name is
still there. -/
theorem transform_rejecting_first :
    ∃ result result', (transform [TwoNames.element] TwoNames.text TwoNames.parser {}).2 =
        .ok result ∧
      (transform [TwoNames.element] TwoNames.text TwoNames.rejecting {}).2 = .ok result' ∧
      result'.root = result.root.revise
        (.ofSettings TwoNames.text TwoNames.parser {} transformerName) (fun x =>
          if x.surrogate? (.ofText TwoNames.text TwoNames.parser transformerName) =
            some TwoNames.first then x.rejected TwoNames.rejection else x) ∧
      result.store.tokens.map (·.raw.toStr) = ["<", "p", ">", "\x7b\x7b", "a", "\x7d\x7d",
        "\x7b\x7b", "b", "\x7d\x7d", "</", "p", ">"] ∧
      result'.store.tokens.map (·.raw.toStr) = ["<", "p", ">", "\x7b\x7b", "\x7d\x7d",
        "\x7b\x7b", "b", "\x7d\x7d", "</", "p", ">"] := by
  have hreturns : ((transform [TwoNames.element] TwoNames.text TwoNames.parser {}).2.toOption.map
      fun r => r.store.tokens.map (·.raw.toStr)) = some ["<", "p", ">", "\x7b\x7b", "a",
        "\x7d\x7d", "\x7b\x7b", "b", "\x7d\x7d", "</", "p", ">"] := by decide +kernel
  have hreturns' : ((transform [TwoNames.element] TwoNames.text TwoNames.rejecting
      {}).2.toOption.map fun r => r.store.tokens.map (·.raw.toStr)) = some ["<", "p", ">",
        "\x7b\x7b", "\x7d\x7d", "\x7b\x7b", "b", "\x7d\x7d", "</", "p", ">"] := by
    decide +kernel
  cases hresult : (transform [TwoNames.element] TwoNames.text TwoNames.parser {}).2 with
  | error e =>
    rw [hresult] at hreturns
    cases hreturns
  | ok result =>
    obtain ⟨parts, result', hresult', -, hroot, -⟩ :=
      transform_rejecting hresult TwoNames.first TwoNames.rejection
    have hresult' : (transform [TwoNames.element] TwoNames.text TwoNames.rejecting {}).2 =
      .ok result' := hresult'
    rw [hresult] at hreturns
    rw [hresult'] at hreturns'
    exact ⟨result, result', rfl, hresult', hroot, Option.some.inj hreturns,
      Option.some.inj hreturns'⟩

end Template

end SingleFile
