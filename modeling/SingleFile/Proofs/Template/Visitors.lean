import SingleFile.Proofs.Template.Ensures
import SingleFile.Proofs.Template.Runs

/-!
# Templates — what holds of every visitor

The visitors are made of few parts: results of scanners, tokens, breaches,
other effects, expressions, and sequences of these. `Context.Closed` says
of a predicate of readings that it is closed under them. Such a predicate
holds of the reading of every document (`Context.Closed.readDocument`), so
what is to be known of all visitors alike need not be carried through them
one by one.

A scanner fails in one way only, at a character outside the source
(`FailsOutside`).
-/

namespace SingleFile

namespace Template

/-! ## Scanners -/

/-- A result that is there, unless a character outside the source was asked for. -/
def FailsOutside {α : Type} (r : Except Failure α) : Prop := ∀ f, r = .error f → f = .charOutside

section

variable {α β : Type} {r : Except Failure α} {g : α → Except Failure β} {t : Text}
  {test : Int → Except Failure Bool}

/-- A result that is there. -/
theorem failsOutside_ok (a : α) : FailsOutside (.ok a) := fun _ h => by cases h

/-- Results in sequence. -/
theorem FailsOutside.bind (hr : FailsOutside r) (hg : ∀ a, FailsOutside (g a)) :
    FailsOutside (r >>= g) := by
  cases r with
  | error e =>
    intro f hf
    cases hf
    exact hr e rfl
  | ok a => exact hg a

/-- A result passed through a function. -/
theorem FailsOutside.map (hr : FailsOutside r) (k : α → β) : FailsOutside (r.map k) := by
  intro f hf
  exact hr f (except_map_eq_error_iff.1 hf)

/-- A character. -/
theorem failsOutside_charAt (t : Text) (offset : Int) : FailsOutside (charAt t offset) := by
  unfold charAt
  split
  · exact failsOutside_ok _
  · intro f h
    cases h
    rfl

/-- Whether a character may be part of a name. -/
theorem failsOutside_isNameCharAt (t : Text) (offset : Int) :
    FailsOutside (isNameCharAt t offset) := by
  unfold isNameCharAt
  split
  · exact failsOutside_ok _
  · exact (failsOutside_charAt t offset).map _

/-- A scan upward. -/
theorem failsOutside_skipUp (htest : ∀ o, FailsOutside (test o)) (offset : Int) (count : Nat) :
    FailsOutside (skipUp test offset count) := by
  induction count generalizing offset with
  | zero => exact failsOutside_ok _
  | succ count ih =>
    refine (htest offset).bind fun found => ?_
    split
    · exact failsOutside_ok _
    · exact ih (offset + 1)

/-- A scan downward. -/
theorem failsOutside_skipDown (htest : ∀ o, FailsOutside (test o)) (offset : Int)
    (count : Nat) : FailsOutside (skipDown test offset count) := by
  induction count generalizing offset with
  | zero => exact failsOutside_ok _
  | succ count ih =>
    refine (htest (offset - 1)).bind fun found => ?_
    split
    · exact failsOutside_ok _
    · exact ih (offset - 1)

/-- Where a name starts. -/
theorem failsOutside_nameStart (t : Text) (start limit : Int) :
    FailsOutside (nameStart t start limit) :=
  failsOutside_skipUp (failsOutside_isNameCharAt t) _ _

/-- Where it stops. -/
theorem failsOutside_nameRest (t : Text) (start limit : Int) :
    FailsOutside (nameRest t start limit) :=
  failsOutside_skipUp (fun o => (failsOutside_isNameCharAt t o).bind fun _ => failsOutside_ok _) _ _

/-- Where it stops, looked for from the end. -/
theorem failsOutside_nameStop (t : Text) (offset floor : Int) :
    FailsOutside (nameStop t offset floor) :=
  failsOutside_skipDown (failsOutside_isNameCharAt t) _ _

/-- Whether a character is no blank. -/
theorem failsOutside_visible (t : Text) (offset : Int) :
    FailsOutside (do return !Text.isBlank (← charAt t offset)) :=
  (failsOutside_charAt t offset).bind fun _ => failsOutside_ok _

end

namespace Context

variable {c : Context}

/-- The code between two offsets, trimmed. -/
theorem failsOutside_codeBounds (c : Context) (start stop : Int) :
    FailsOutside (c.codeBounds start stop) :=
  (failsOutside_skipUp (failsOutside_visible c.text) _ _).bind fun _ =>
    (failsOutside_skipDown (failsOutside_visible c.text) _ _).bind fun _ => failsOutside_ok _

/-- The size of a quote. -/
theorem failsOutside_quoteSize (c : Context) (offset stop : Int) :
    FailsOutside (c.quoteSize offset stop) := by
  unfold quoteSize
  split
  · exact (failsOutside_charAt c.text offset).bind fun _ => failsOutside_ok _
  · exact failsOutside_ok _

/-! ## Closed predicates -/

/-- **A predicate is closed under the parts of the visitors.** -/
structure Closed (c : Context) (P : ∀ {α : Type}, Emission α → Prop) : Prop where
  scan : ∀ {α : Type} {r : Except Failure α}, FailsOutside r → P (.ofExcept r)
  breach : ∀ {α : Type} (r : Except Breach α), P (.ofBreach r)
  bind : ∀ {α β : Type} {m : Emission α} {f : α → Emission β}, P m → (∀ v, P (f v)) → P (m >>= f)
  token : ∀ kind start stop, P (c.token kind start stop)
  emit : ∀ e, (∀ t, e ≠ .token t) → P (.emit e)
  read : ∀ start stop, P (c.reader.read start stop)

namespace Closed

variable {P : ∀ {α : Type}, Emission α → Prop} (h : c.Closed P)

include h

/-- A value alone. -/
theorem pure {α : Type} (v : α) : P (Pure.pure v : Emission α) := h.scan (failsOutside_ok v)

/-- A reading whose value is passed through a function. -/
theorem map {α β : Type} {m : Emission α} (hm : P m) (g : α → β) :
    P (m >>= fun v => Pure.pure (g v)) :=
  h.bind hm fun v => h.pure (g v)

/-- A place. -/
theorem place (start stop : Int) : P (c.place start stop) :=
  h.bind (h.breach _) fun _ => h.map (h.breach _) _

/-- What is one token. -/
theorem covered {α : Type} (kind : TokenKind) (start stop : Int) (g : Place → α) :
    P (c.token kind start stop >>= fun _ => c.place start stop >>= fun p => Pure.pure (g p)) :=
  h.bind (h.token _ _ _) fun _ => h.map (h.place _ _) g

/-- An expression between its delimiters. -/
theorem container (start stop : Int) (openSize closeSize : Nat) :
    P (c.container start stop openSize closeSize) :=
  h.bind (h.token _ _ _) fun _ => h.bind (h.scan (c.failsOutside_codeBounds _ _)) fun _ =>
    h.bind (h.read _ _) fun _ => h.bind (h.token _ _ _) fun _ => h.map (h.place _ _) _

/-- The name of a start tag. -/
theorem tagName (start limit : Int) : P (c.tagName start limit) :=
  h.bind (h.scan (failsOutside_nameStart _ _ _)) fun _ =>
    h.bind (h.scan (failsOutside_nameRest _ _ _)) fun _ => h.covered _ _ _ _

/-- A name looked for from both ends. -/
theorem nameBetween (start stop limit : Int) : P (c.nameBetween start stop limit) :=
  h.bind (h.scan (failsOutside_nameStart _ _ _)) fun _ =>
    h.bind (h.scan (failsOutside_nameStop _ _ _)) fun _ => h.covered _ _ _ _

/-! ## Attributes and tags -/

/-- The value of an attribute. -/
theorem attributeContent (isDirective : Bool) (value : Text) (start stop : Int) :
    P (c.attributeContent isDirective value start stop) := by
  refine h.bind (h.scan (failsOutside_skipUp (failsOutside_visible c.text) _ _)) fun first => ?_
  refine h.bind (h.scan (c.failsOutside_quoteSize _ _)) fun size => ?_
  split
  · exact h.map (h.container _ _ _ _) _
  · exact h.map (h.covered _ _ _ _) _

/-- The name of an attribute. -/
theorem readKey (directive : Bool) (start sign stop : Int) :
    P (c.readKey directive start sign stop) := by
  unfold Context.readKey
  split
  · exact h.bind (h.scan (failsOutside_nameStop _ _ _)) fun _ => h.map (h.covered _ _ _ _) _
  · exact h.map (h.nameBetween _ _ _) _

/-- What follows the name. -/
theorem readContent (directive : Bool) (value : Text) (sign stop : Int) :
    P (c.readContent directive value sign stop) := by
  unfold Context.readContent
  split
  · exact h.bind (h.token _ _ _) fun _ => h.map (h.attributeContent _ _ _ _) _
  · exact h.pure _

/-- An attribute. -/
theorem readAttribute (a : Markup.Attribute) : P (c.readAttribute a) := by
  rw [readAttribute_bind a rfl]
  exact h.bind (h.readKey _ _ _ _) fun _ => h.bind (h.readContent _ _ _ _) fun _ =>
    h.map (h.place _ _) _

/-- Several attributes. -/
theorem attributes (as : List Markup.Attribute) : P (c.attributes as) := by
  induction as with
  | nil => exact h.pure _
  | cons a rest ih => exact h.bind (h.readAttribute a) fun _ => h.map ih _

/-- A start tag and its attributes. -/
theorem openingTag (mark : Markup.ElementMark) (as : List Markup.Attribute) :
    P (c.openingTag mark as) := by
  have hslash (start stop : Int) : FailsOutside (if 2 ≤ stop - start then
      (charAt c.text (stop - 2)).map (· == '/') else .ok false) := by
    split
    · exact (failsOutside_charAt c.text (stop - 2)).map _
    · exact failsOutside_ok _
  exact h.bind (h.scan (hslash _ _)) fun _ => h.bind (h.token _ _ _) fun _ =>
    h.bind (h.tagName _ _) fun _ => h.bind (h.attributes as) fun _ =>
      h.bind (h.token _ _ _) fun _ => h.map (h.place _ _) _

/-- An end tag, if there is one. -/
theorem closingTag (mark : Markup.ElementMark) : P (c.closingTag mark) := by
  unfold Context.closingTag
  split
  · exact h.pure _
  · exact h.bind (h.token _ _ _) fun _ => h.bind (h.nameBetween _ _ _) fun _ =>
      h.bind (h.token _ _ _) fun _ => h.map (h.place _ _) _

/-! ## Entries -/

/-- A run of text, split at its interpolations. -/
theorem runs (cursor stop : Int) (spans : List (Nat × Nat)) : P (c.runs cursor stop spans) := by
  induction spans generalizing cursor with
  | nil =>
    unfold Context.runs
    split
    · exact h.map (h.covered _ _ _ _) _
    · exact h.pure _
  | cons span rest ih =>
    obtain ⟨first, last⟩ := span
    rw [runs_cons]
    refine h.bind ?_ fun _ => h.bind (h.container _ _ _ _) fun _ => h.map (ih last) _
    split
    · exact h.map (h.covered _ _ _ _) _
    · exact h.pure _

mutual
/-- **An entry.** -/
theorem visit : ∀ e : Markup.Entry, P (c.visit e)
  | .text m => h.runs _ _ _
  | .comment _ _ => by
    refine h.map (h.bind (h.place _ _) fun p => h.emit _ ?_) _
    exact fun t => Effect.noConfusion
  | .other _ _ => h.map (h.emit _ fun t => Effect.noConfusion) _
  | .element name mark as children content => by
    rw [visit_element]
    have hinner : P (c.visitAll (content.getD children)) := by
      cases content with
      | some entries => exact visitAll entries
      | none => exact visitAll children
    exact h.bind (h.openingTag mark as) fun _ => h.bind hinner fun _ =>
      h.bind (h.closingTag mark) fun _ => h.map (h.place _ _) _
  | .fragment _ => h.breach _
  | .document _ => h.breach _

/-- Several entries. -/
theorem visitAll : ∀ es : List Markup.Entry, P (c.visitAll es)
  | [] => h.pure _
  | e :: es => h.bind (visit e) fun _ => h.map (visitAll es) _
end

/-- **A document.** -/
theorem readDocument (es : List Markup.Entry) : P (c.readDocument es) :=
  h.bind (h.visitAll es) fun _ => h.map (h.place _ _) _

end Closed

end Context

end Template

end SingleFile
