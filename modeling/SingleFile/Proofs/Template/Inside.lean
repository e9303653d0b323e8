import SingleFile.Proofs.Markup.Nested
import SingleFile.Proofs.Settings.Delimiters
import SingleFile.Proofs.Template.Ensures
import SingleFile.Proofs.Template.Runs

/-!
# Templates — tokens stay inside their entry

A tag begins and ends with a token of its own, and so does an
interpolation, so in a store that keeps tokens in order whatever is
emitted between the two lies between them: names and values wherever they
were found, and the tokens of expressions wherever the script reader put
them. Runs of text are cut at their interpolations. An entry whose tags
and texts lie between two offsets therefore has its tokens there
(`within_visit`).
-/

namespace SingleFile

namespace Template

/-- Tokens that a token from `start` opens. -/
def OpenedAt (start : Int) (ts : List Token) : Prop :=
  ∃ first rest, ts = first :: rest ∧ (first.range.start : Int) = start

/-- Tokens that one from `start` opens and one up to `stop` closes. -/
def Bracketed (start stop : Int) (ts : List Token) : Prop :=
  ∃ first mid last, ts = first :: mid ++ [last] ∧ (first.range.start : Int) = start ∧
    (last.range.stop : Int) = stop

/-- What follows does not change how tokens are opened. -/
theorem OpenedAt.append {start : Int} {ts : List Token} (h : OpenedAt start ts) (us : List Token) :
    OpenedAt start (ts ++ us) := by
  obtain ⟨first, rest, rfl, hstart⟩ := h
  exact ⟨first, rest ++ us, rfl, hstart⟩

/-- A last token closes what was opened. -/
theorem OpenedAt.close {start stop : Int} {ts : List Token} {text : Text} {t : Token} {a : Int}
    (h : OpenedAt start ts) (ht : Token.IsPart t text a stop) :
    Bracketed start stop (ts ++ [t]) := by
  obtain ⟨first, rest, rfl, hstart⟩ := h
  exact ⟨first, rest, t, rfl, hstart, ht.stop_eq⟩

/-- **Tokens in order lie between the first and the last.** -/
theorem Bracketed.inside {start stop : Int} {ts : List Token} (h : Bracketed start stop ts)
    (hordered : ts.Pairwise Token.Before) :
    ∀ t ∈ ts, start ≤ t.range.start ∧ (t.range.stop : Int) ≤ stop := by
  obtain ⟨first, mid, last, rfl, hstart, hstop⟩ := h
  obtain ⟨hfront, -, hlast⟩ := List.pairwise_append.1 hordered
  have hfirst := (List.pairwise_cons.1 hfront).1
  intro t ht
  have hle := t.range.start_le_stop
  have hfirstle := first.range.start_le_stop
  have hlastle := last.range.start_le_stop
  have hends : first.Before last :=
    hlast first List.mem_cons_self last (List.mem_singleton.2 rfl)
  unfold Token.Before at hends
  rcases List.mem_append.1 ht with ht | ht
  · have hbefore : t.Before last := hlast t ht last (List.mem_singleton.2 rfl)
    unfold Token.Before at hbefore
    rcases List.mem_cons.1 ht with rfl | ht
    · omega
    · have hafter : first.Before t := hfirst t ht
      unfold Token.Before at hafter
      omega
  · obtain rfl := List.mem_singleton.1 ht
    omega

/-- If its tokens are in order, they lie between two offsets. -/
def Emission.Within {α : Type} (m : Emission α) (start stop : Nat) : Prop :=
  m.Ensures fun _ ts =>
    ts.Pairwise Token.Before → ∀ t ∈ ts, start ≤ t.range.start ∧ t.range.stop ≤ stop

namespace Emission

variable {α β : Type} {m : Emission α} {f : α → Emission β} {start stop : Nat}

/-- Readings in sequence. -/
theorem Within.bind (hm : m.Within start stop) (hf : ∀ v, (f v).Within start stop) :
    (m >>= f).Within start stop := by
  refine Ensures.bind hm fun v => (hf v).imp fun w us hus ts hts hordered => ?_
  obtain ⟨h1, h2, -⟩ := List.pairwise_append.1 hordered
  intro t ht
  rcases List.mem_append.1 ht with ht | ht
  · exact hts h1 t ht
  · exact hus h2 t ht

/-- What emits no tokens. -/
theorem within_of_silent (h : m.Ensures fun _ ts => ts = []) : m.Within start stop := by
  refine h.imp fun _ ts hts _ t ht => ?_
  rw [hts] at ht
  cases ht

/-- A value alone. -/
theorem within_pure (v : α) : (pure v : Emission α).Within start stop :=
  within_of_silent (ensures_pure rfl)

/-- What emits its tokens between two of its own. -/
theorem within_of_bracketed {a b : Int} (h : m.Ensures fun _ ts => Bracketed a b ts)
    (ha : (start : Int) ≤ a) (hb : b ≤ stop) : m.Within start stop := by
  refine h.imp fun _ ts hts hordered t ht => ?_
  have := hts.inside hordered t ht
  omega

/-- Behind a token that opens at `start`, the reading closes at `stop`. -/
def Closes (m : Emission α) (start stop : Int) : Prop :=
  m.Ensures fun _ us => ∀ ts, OpenedAt start ts → Bracketed start stop (ts ++ us)

/-- What is emitted before the reading that closes does not matter. -/
theorem closes_bind {a b : Int} (hf : ∀ v, (f v).Closes a b) : (m >>= f).Closes a b := by
  refine Ensures.bind (P := fun _ _ => True) (fun _ _ _ => trivial) fun v => ?_
  refine (hf v).imp fun w us hus ts _ vs hvs => ?_
  rw [← List.append_assoc]
  exact hus (vs ++ ts) (hvs.append ts)

end Emission

namespace Context

variable {c : Context} {start stop : Nat}

/-! ## Brackets -/

/-- A token opens, and what closes makes it a bracket. -/
theorem bracketed_bind {α : Type} (kind : TokenKind) {a b stop : Int} {f : Unit → Emission α}
    (h : a < b) (hf : (f ()).Closes a stop) :
    (c.token kind a b >>= f).Ensures fun _ ts => Bracketed a stop ts := by
  refine Emission.Ensures.bind (ensures_token kind) fun _ => ?_
  refine hf.imp fun _ us hus ts hts => hus ts ?_
  rw [if_pos h] at hts
  obtain ⟨t, rfl, hpart⟩ := hts
  exact ⟨t, [], rfl, hpart.start_eq⟩

/-- A token closes, and a place after it changes nothing. -/
theorem closes_token {α : Type} (kind : TokenKind) {start a b : Int} (h : a < b) {p q : Int}
    (g : Place → α) :
    (c.token kind a b >>= fun _ => c.place p q >>= fun x => (pure (g x) : Emission α)).Closes
      start b := by
  refine Emission.Ensures.bind (ensures_token kind) fun _ => ?_
  refine Emission.Ensures.bind ensures_place fun _ => ?_
  refine Emission.ensures_pure ?_
  rintro us ⟨rfl, -⟩ vs hvs ts hts
  rw [if_pos h] at hvs
  obtain ⟨t, rfl, hpart⟩ := hvs
  exact hts.close hpart

/-- **A start tag** is bracketed by its own angle brackets. -/
theorem bracketed_openingTag (mark : Markup.ElementMark) (as : List Markup.Attribute) :
    (c.openingTag mark as).Ensures fun _ ts => Bracketed mark.tag.start mark.tag.stop ts := by
  unfold openingTag
  refine Emission.Ensures.bind (Emission.ensures_ofExcept (Q := fun _ ts => ts = [])
    fun _ _ => rfl) fun slash => ?_
  refine Emission.Ensures.imp (P := fun _ us => Bracketed mark.tag.start mark.tag.stop us)
    (bracketed_bind .punctuator ?_ ?_) fun _ us hus ts hts => ?_
  · omega
  · refine Emission.closes_bind fun _ => Emission.closes_bind fun attributes => ?_
    refine closes_token .punctuator ?_ _
    change (mark.tag.stop - if slash = true then 2 else 1 : Int) < mark.tag.stop
    split <;> omega
  · rw [hts]
    exact hus

/-- **An end tag** is, too, where there is one. -/
theorem bracketed_closingTag (mark : Markup.ElementMark) :
    (c.closingTag mark).Ensures fun _ ts =>
      match mark.endTag with
      | none => ts = []
      | some tag => Bracketed tag.start tag.stop ts := by
  unfold closingTag
  cases mark.endTag with
  | none => exact Emission.ensures_pure rfl
  | some tag =>
    refine bracketed_bind .punctuator ?_ (Emission.closes_bind fun _ =>
      closes_token .punctuator ?_ _)
    · omega
    · omega

/-- **An interpolation** is bracketed by its delimiters. -/
theorem bracketed_container {first last : Int} {openSize closeSize : Nat} (hopen : 0 < openSize)
    (hclose : 0 < closeSize) :
    (c.container first last openSize closeSize).Ensures fun _ ts => Bracketed first last ts :=
  bracketed_bind .punctuator (by omega) (Emission.closes_bind fun _ =>
    Emission.closes_bind fun _ => closes_token .punctuator (by omega) _)

/-! ## Entries -/

/-- Both delimiters of interpolations are there. -/
def Delimits (c : Context) : Prop := 0 < c.opening.length ∧ 0 < c.closing.length

/-- A run of literal text. -/
theorem within_textRun {a b : Int} (ha : (start : Int) ≤ a) (hb : b ≤ stop) :
    (c.textRun a b).Within start stop := by
  refine Emission.Within.bind ?_ fun _ => Emission.Within.bind ?_ fun _ =>
    Emission.within_pure _
  · refine (ensures_token _).imp fun _ ts hts _ t ht => ?_
    split at hts
    · obtain ⟨t', rfl, hpart⟩ := hts
      obtain rfl := List.mem_singleton.1 ht
      have hstart := hpart.start_eq
      have hstop := hpart.stop_eq
      omega
    · rw [hts] at ht
      cases ht
  · exact Emission.within_of_silent (ensures_place.imp fun _ _ h => h.1)

/-- **A run of text**, from a cursor on. -/
theorem within_runs (hc : c.Delimits) {cursor limit : Nat} {spans : List (Nat × Nat)}
    (h : Chained c.text c.opening c.closing cursor limit spans) (hcursor : start ≤ cursor)
    (hlimit : limit ≤ stop) : (c.runs cursor limit spans).Within start stop := by
  induction spans generalizing cursor with
  | nil =>
    unfold runs
    split
    · exact (within_textRun (by omega) (by omega)).bind fun _ => Emission.within_pure _
    · exact Emission.within_pure _
  | cons span rest ih =>
    obtain ⟨first, last⟩ := span
    obtain ⟨h1, h2, -, hrest⟩ := h
    have hlast := hrest.le
    rw [runs_cons]
    refine Emission.Within.bind ?_ fun _ => Emission.Within.bind ?_ fun _ =>
      (ih hrest (by omega)).bind fun _ => Emission.within_pure _
    · split
      · exact (within_textRun (by omega) (by omega)).bind fun _ => Emission.within_pure _
      · exact Emission.within_pure _
    · exact Emission.within_of_bracketed (bracketed_container hc.1 hc.2) (by omega) (by omega)

mutual
/-- **An entry.** -/
theorem within_visit (hc : c.Delimits) (hstop : stop ≤ c.text.length) : ∀ e : Markup.Entry,
    (∀ x ∈ e.walk, x.FitsIn start stop) → (c.visit e).Within start stop
  | .text m, h => by
    obtain ⟨h1, h2, h3⟩ : m.Between start stop := h _ (List.mem_singleton.2 rfl)
    obtain ⟨first, hfirst⟩ := Int.eq_ofNat_of_zero_le (show 0 ≤ m.start by omega)
    obtain ⟨last, hlast⟩ := Int.eq_ofNat_of_zero_le (show 0 ≤ m.stop by omega)
    rw [visit, readText, hfirst, hlast]
    exact within_runs hc (chained_interpolations (by omega) (by omega)) (by omega) (by omega)
  | .comment _ _, _ => by
    rw [visit]
    refine Emission.Within.bind (Emission.Within.bind ?_ fun _ => ?_) fun _ =>
      Emission.within_pure _
    · exact Emission.within_of_silent (ensures_place.imp fun _ _ h => h.1)
    · exact Emission.within_of_silent fun _ _ _ => rfl
  | .other _ _, _ => by
    rw [visit]
    exact Emission.Within.bind (Emission.within_of_silent fun _ _ _ => rfl) fun _ =>
      Emission.within_pure _
  | .element name mark as children content, h => by
    have hwalk := Markup.Element.walk_entry ⟨name, mark, as, children, content⟩
    change (Markup.Entry.element name mark as children content).walk = _ at hwalk
    rw [hwalk] at h
    obtain ⟨⟨htag, hend⟩, hinner⟩ := List.forall_mem_cons.1 h
    have hentries : (c.visitAll (content.getD children)).Within start stop := by
      cases content with
      | some entries => exact within_visitAll hc hstop entries hinner
      | none => exact within_visitAll hc hstop children hinner
    have hclosing : (c.closingTag mark).Within start stop := by
      have hensures := bracketed_closingTag (c := c) mark
      cases hm : mark.endTag with
      | none =>
        rw [hm] at hensures
        exact Emission.within_of_silent hensures
      | some tag =>
        rw [hm] at hensures
        exact Emission.within_of_bracketed hensures (hend tag hm).1 (hend tag hm).2.2
    rw [visit_element]
    exact Emission.Within.bind
      (Emission.within_of_bracketed (bracketed_openingTag mark as) htag.1 htag.2.2) fun _ =>
      hentries.bind fun _ => hclosing.bind fun _ => Emission.Within.bind
        (Emission.within_of_silent (ensures_place.imp fun _ _ h => h.1)) fun _ =>
          Emission.within_pure _
  | .fragment _, _ => by
    rw [visit]
    exact Emission.within_of_silent (Emission.ensures_ofBreach fun _ h => by cases h)
  | .document _, _ => by
    rw [visit]
    exact Emission.within_of_silent (Emission.ensures_ofBreach fun _ h => by cases h)

/-- **Several entries.** -/
theorem within_visitAll (hc : c.Delimits) (hstop : stop ≤ c.text.length) :
    ∀ es : List Markup.Entry, (∀ x ∈ Markup.walkAll es, x.FitsIn start stop) →
      (c.visitAll es).Within start stop
  | [], _ => by
    rw [visitAll]
    exact Emission.within_pure _
  | e :: es, h => by
    rw [Markup.walkAll, List.forall_mem_append] at h
    rw [visitAll]
    exact (within_visit hc hstop e h.1).bind fun _ =>
      (within_visitAll hc hstop es h.2).bind fun _ => Emission.within_pure _
end

/-- **A document** is the nodes of its entries. -/
theorem within_readDocument (hc : c.Delimits) (hstop : stop ≤ c.text.length)
    {es : List Markup.Entry} (h : ∀ x ∈ Markup.walkAll es, x.FitsIn start stop) :
    (c.readDocument es).Within start stop :=
  (within_visitAll hc hstop es h).bind fun _ => Emission.Within.bind
    (Emission.within_of_silent (ensures_place.imp fun _ _ hp => hp.1)) fun _ =>
      Emission.within_pure _

end Context

/-- Checked settings delimit interpolations on both sides. -/
theorem delimits_ofSettings {fields : List (Text × Value)} {settings : TemplateSettings}
    (h : TemplateSettings.ofFields fields = .ok settings) (text : Text) (parser : ScriptParser)
    (reporter : String) : (Context.ofSettings text parser settings reporter).Delimits := by
  obtain ⟨d, hopen, -⟩ := TemplateSettings.head?_interpolationOpen h
  obtain ⟨d', hclose, -⟩ := TemplateSettings.head?_interpolationClose h
  have hpos : ∀ {t : Text} {d : Char}, t.head? = some d → 0 < t.length := by
    intro t d ht
    obtain ⟨rest, rfl⟩ := List.head?_eq_some_iff.1 ht
    exact Nat.succ_pos _
  exact ⟨hpos hopen, hpos hclose⟩

end Template

end SingleFile
