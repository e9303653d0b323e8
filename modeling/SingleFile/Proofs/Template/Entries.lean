import SingleFile.Proofs.Template.Runs
import SingleFile.Proofs.Template.Tags

/-!
# Entries — the pieces of a whole markup tree

The reading of well-formed markup comes to one list of pieces, laid out
over the source that the markup covers. Its tokens are apart when those
of every element are.
-/

namespace SingleFile

namespace Template

namespace Context

variable {c : Context} {wide : Bool} {free : Nat → Prop} {gap : Nat → Nat → Prop}

/-- **An element**, whose children come to some pieces between its tags. -/
theorem exists_spells_element (hc : c.Indexed) (hf : c.Frees wide free) {e : Markup.Element}
    {inner : Emission (List Node)} {start first last stop : Nat} {P : Prop}
    (hopen : e.mark.OpensAt c.text e.attributes start first)
    (hclose : e.mark.ClosesAt c.text last stop) (hstop : stop ≤ c.text.length)
    (hinner : ∃ ps, Spells c inner ps ∧ Layout wide c.text free first last P ps) :
    ∃ ps, Spells c (do
        let (opening, attributes) ← c.openingTag e.mark e.attributes
        let inner ← inner
        let closing ← c.closingTag e.mark
        let place ← c.place e.mark.whole.start e.mark.whole.stop
        return [Node.element place e.name opening closing attributes inner]) ps ∧
      Layout wide c.text free start stop (c.Fits wide e ∧ P) ps := by
  obtain ⟨ps, hps, hopening⟩ := exists_spells_openingTag hc hf hopen
  obtain ⟨qs, hqs, hbetween⟩ := hinner
  obtain ⟨rs, hrs, hclosing⟩ := exists_spells_closingTag hc hf hclose hstop
  have hlayout := hopening.append (hbetween.append hclosing)
  obtain ⟨p, hp⟩ := place_eq hc hlayout.ordered hstop
  refine ⟨ps ++ (qs ++ rs), ?_, hlayout.congr (by rw [and_true])⟩
  rw [hopen.1, hclose.1, hp]
  exact hps.bind fun _ => hqs.bind fun _ => hrs.bind_pure _

mutual
/-- **An entry.** -/
theorem exists_spells_visit (hc : c.Indexed) (hf : c.Frees wide free) (ho : c.Opens)
    (hgap : ∀ a b, gap a b → a ≤ b ∧ ∀ o, a ≤ o → o < b → free o) :
    ∀ (e : Markup.Entry) {start stop : Nat}, e.SpannedBy c.text gap start stop →
      stop ≤ c.text.length →
      (∀ m ∈ e.walk.filterMap Markup.Entry.skipped?, ∀ o : Nat, m.start ≤ o → o < m.stop → free o) →
      ∃ ps, Spells c (visit c e) ps ∧ Layout wide c.text free start stop
        (∀ x ∈ e.walk.filterMap Markup.Entry.element?, c.Fits wide x) ps
  | .text m, start, stop, h, hstop, _ => by
    rw [Markup.Entry.SpannedBy] at h
    obtain ⟨h1, h2, hle⟩ := h
    obtain ⟨ps, hps, hlayout⟩ := exists_spells_runs hc hf ho hstop (chained_interpolations hle hstop)
    refine ⟨ps, ?_, hlayout.congr (by simp [Markup.Entry.walk, Markup.Entry.element?])⟩
    rw [visit, readText, h1, h2]
    exact hps
  | .comment data m, start, stop, h, hstop, _ => by
    rw [Markup.Entry.SpannedBy] at h
    obtain ⟨h1, h2, hle⟩ := h
    have hlayout : Layout wide c.text free start stop True [.comment data start stop] :=
      .one_wide rfl hle ⟨hle, hstop⟩ hf.narrow
    refine ⟨[.comment data start stop], ?_, hlayout.congr
      (by simp [Markup.Entry.walk, Markup.Entry.element?])⟩
    rw [visit, readComment, h1, h2]
    exact (spells_emission (.comment data start stop)).bind_pure _
  | .other name m, start, stop, h, _, hfree => by
    rw [Markup.Entry.SpannedBy] at h
    obtain ⟨h1, h2, hle⟩ := h
    have hlayout : Layout wide c.text free start stop True [.skipped name start] :=
      .one_free rfl hle trivial fun o ho1 ho2 =>
        hfree m (by simp [Markup.Entry.walk, Markup.Entry.skipped?]) o (by omega) (by omega)
    refine ⟨[.skipped name start], ?_, hlayout.congr
      (by simp [Markup.Entry.walk, Markup.Entry.element?])⟩
    rw [visit, h1]
    exact (spells_emission (.skipped name start)).bind_pure _
  | .element name mark as children content, start, stop, h, hstop, hfree => by
    rw [Markup.Entry.SpannedBy] at h
    obtain ⟨first, last, hopen, hinner, hclose⟩ := h
    have hlast := hclose.le
    rw [visit]
    -- a template element is read from its content, any other from its children
    cases content with
    | some entries =>
      rw [Markup.Entry.walk] at hfree ⊢
      have hread := exists_spells_visitAll hc hf ho hgap entries hinner (Nat.le_trans hlast hstop) hfree
      obtain ⟨ps, hps, hlayout⟩ := exists_spells_element hc hf
        (e := ⟨name, mark, as, children, some entries⟩) hopen hclose hstop hread
      exact ⟨ps, hps, hlayout.congr (by simp [Markup.Entry.element?, Markup.elements])⟩
    | none =>
      rw [Markup.Entry.walk] at hfree ⊢
      have hread := exists_spells_visitAll hc hf ho hgap children hinner (Nat.le_trans hlast hstop) hfree
      obtain ⟨ps, hps, hlayout⟩ := exists_spells_element hc hf
        (e := ⟨name, mark, as, children, none⟩) hopen hclose hstop hread
      exact ⟨ps, hps, hlayout.congr (by simp [Markup.Entry.element?, Markup.elements])⟩
  | .fragment _, _, _, h, _, _ => by rw [Markup.Entry.SpannedBy] at h; exact h.elim
  | .document _, _, _, h, _, _ => by rw [Markup.Entry.SpannedBy] at h; exact h.elim

/-- **Several entries.** -/
theorem exists_spells_visitAll (hc : c.Indexed) (hf : c.Frees wide free) (ho : c.Opens)
    (hgap : ∀ a b, gap a b → a ≤ b ∧ ∀ o, a ≤ o → o < b → free o) :
    ∀ (entries : List Markup.Entry) {start stop : Nat},
      Markup.Laid c.text gap start entries stop → stop ≤ c.text.length →
      (∀ m ∈ Markup.skipped entries, ∀ o : Nat, m.start ≤ o → o < m.stop → free o) →
      ∃ ps, Spells c (visitAll c entries) ps ∧ Layout wide c.text free start stop
        (∀ x ∈ Markup.elements entries, c.Fits wide x) ps
  | [], start, stop, h, _, _ => by
    rw [Markup.Laid] at h
    obtain ⟨hle, hfree⟩ := hgap _ _ h
    exact ⟨[], spells_pure _, (Layout.gap hle hfree).congr (by simp [Markup.elements, Markup.walkAll])⟩
  | e :: es, start, stop, h, hstop, hfree => by
    rw [Markup.Laid] at h
    obtain ⟨first, last, hfirst, he, hes⟩ := h
    rw [Markup.skipped_cons] at hfree
    obtain ⟨hle, hgapfree⟩ := hgap _ _ hfirst
    obtain ⟨qs, hqs, hrest⟩ := exists_spells_visitAll hc hf ho hgap es hes hstop fun m hm =>
      hfree m (List.mem_append_right _ hm)
    obtain ⟨ps, hps, hlayout⟩ := exists_spells_visit hc hf ho hgap e he
      (Nat.le_trans hrest.ordered hstop) fun m hm => hfree m (List.mem_append_left _ hm)
    refine ⟨ps ++ qs, ?_, ?_⟩
    · rw [visitAll]
      exact hps.bind fun _ => hqs.bind_pure _
    · refine ((Layout.gap hle hgapfree).append (hlayout.append hrest)).congr ?_
      rw [Markup.elements_cons, true_and, List.forall_mem_append]
end

/-! ## The document -/

/-- The bounds of marks inside a range of offsets lie there, in order. -/
theorem exists_foldl_bounds {size : Nat} (ms : List Mark) {b : Int × Int}
    (hms : ∀ m ∈ ms, 0 ≤ m.start ∧ m.start ≤ m.stop ∧ m.stop ≤ size)
    (hb : 0 ≤ b.1 ∧ b.1 ≤ b.2 ∧ b.2 ≤ size) :
    ∃ start stop : Nat, ms.foldl (fun b m => (min b.1 m.start, max b.2 m.stop)) b = (↑start, ↑stop) ∧
      start ≤ stop ∧ stop ≤ size := by
  induction ms generalizing b with
  | nil => exact ⟨b.1.toNat, b.2.toNat, Prod.ext (by simp; omega) (by simp; omega), by omega, by omega⟩
  | cons m ms ih =>
    obtain ⟨hm, hms⟩ := List.forall_mem_cons.1 hms
    exact ih hms ⟨by dsimp only; omega, by dsimp only; omega, by dsimp only; omega⟩

/-- The bounds of entries whose marks lie in a text lie there too, in order. -/
theorem exists_bounds_of_marks {entries : List Markup.Entry} {size : Nat}
    (h : ∀ m ∈ entries.filterMap Markup.Entry.mark?,
      0 ≤ m.start ∧ m.start ≤ m.stop ∧ m.stop ≤ size) :
    ∃ first last : Nat, bounds entries = (↑first, ↑last) ∧ first ≤ last ∧ last ≤ size := by
  unfold bounds
  cases hms : entries.filterMap Markup.Entry.mark? with
  | nil => exact ⟨0, 0, rfl, Nat.le_refl _, Nat.zero_le _⟩
  | cons m ms =>
    rw [hms] at h
    obtain ⟨hm, hms⟩ := List.forall_mem_cons.1 h
    exact exists_foldl_bounds ms hms hm

/-- The bounds of well-formed markup. -/
theorem exists_bounds {t : Text} {entries : List Markup.Entry} {start stop : Nat}
    (hgap : ∀ a b, gap a b → a ≤ b) (h : Markup.WellFormed t gap entries start stop) :
    ∃ first last : Nat, bounds entries = (↑first, ↑last) ∧ first ≤ last ∧ last ≤ t.length := by
  have hmarks := Markup.Laid.marks hgap h.laid
  have hinside := h.inside
  refine exists_bounds_of_marks fun m hm => ?_
  have := hmarks m hm
  omega

/-- **A document around well-formed markup.** -/
theorem exists_spells_readDocument (hc : c.Indexed) (hf : c.Frees wide free) (ho : c.Opens)
    (hgap : ∀ a b, gap a b → a ≤ b ∧ ∀ o, a ≤ o → o < b → free o)
    {entries : List Markup.Entry} {start stop : Nat}
    (h : Markup.WellFormed c.text gap entries start stop)
    (hskipped : ∀ m ∈ Markup.skipped entries, ∀ o : Nat, m.start ≤ o → o < m.stop → free o) :
    ∃ ps, Spells c (c.readDocument entries) ps ∧ Layout wide c.text free start stop
      (∀ e ∈ Markup.elements entries, c.Fits wide e) ps := by
  obtain ⟨ps, hps, hlayout⟩ :=
    exists_spells_visitAll hc hf ho hgap entries h.laid h.inside hskipped
  obtain ⟨first, last, hbounds, hle, hlen⟩ := exists_bounds (fun a b h => (hgap a b h).1) h
  obtain ⟨p, hp⟩ := place_eq hc hle hlen
  refine ⟨ps, ?_, hlayout⟩
  unfold readDocument
  simp only [hbounds, hp]
  exact hps.bind_pure _

end Context

end Template

end SingleFile
