import SingleFile.Proofs.Markup.WellFormed
import SingleFile.Proofs.Template.Coverage
import SingleFile.Proofs.Template.Edges
import SingleFile.Proofs.Template.Parents
import SingleFile.Proofs.Template.Rejected

/-!
# Templates — boundaries of nodes

Over well-formed markup every visitor returns nodes whose ends are ends of
tokens, with the exceptions of `Edged`. An element without end tag ends
where the last of its entries does, so the reading of entries is followed
together with what it ends with (`Ends`). The tokens of a store are in
order, and so the lookups of first and last tokens find those ends
(`boundaries_of_transform`).
-/

namespace SingleFile

/-- The mark of an entry that has no token: a comment, or one that is skipped. -/
def Markup.Entry.quiet? : Markup.Entry → Option Mark
  | .comment _ m | .other _ m => some m
  | _ => none

/-- The marks of the entries without tokens, among entries and below them. -/
def Markup.quiet (entries : List Markup.Entry) : List Mark :=
  (Markup.walkAll entries).filterMap Markup.Entry.quiet?

namespace Template

namespace Context

variable {c : Context} {marks : List Mark} {n mid n' : Nat} {ts us : List Token}
  {start stop : Nat}

/-! ## Tags -/

/-- A place between two offsets, where a token starts and one ends. -/
def Bounded (p : Place) (ts : List Token) (start stop : Nat) : Prop :=
  (p.range.start = start ∧ p.range.stop = stop) ∧
    (∃ t ∈ ts, t.OpensIn p.range) ∧ ∃ t ∈ ts, t.ClosesIn p.range

/-- A place between two offsets, with the tokens that start and end there. -/
theorem bounded_of_parts {p : Place} {t t' : Token} {a b : Int}
    (hplace : p.range.start = start ∧ p.range.stop = stop) (ht : t ∈ ts) (ht' : t' ∈ ts)
    (hopen : t.IsPart c.text start a) (hclose : t'.IsPart c.text b stop) (h1 : (start : Int) < a)
    (h2 : a ≤ stop) (h3 : (start : Int) ≤ b) : Bounded p ts start stop :=
  ⟨hplace, ⟨t, ht, hopen.opensIn (by omega) h1 (by omega)⟩,
    t', ht', hclose.closesIn (by omega) (by omega)⟩

/-- More tokens do no harm. -/
theorem Bounded.mono {p : Place} (h : Bounded p ts start stop) (hts : ∀ t ∈ ts, t ∈ us) :
    Bounded p us start stop := by
  obtain ⟨hplace, ⟨t, ht, hopen⟩, t', ht', hclose⟩ := h
  exact ⟨hplace, ⟨t, hts t ht, hopen⟩, t', hts t' ht', hclose⟩

/-- **A start tag and its attributes.** -/
theorem counts_openingTag (marks : List Mark) {mark : Markup.ElementMark}
    {as : List Markup.Attribute} (h : mark.OpensAt c.text as start stop) :
    (c.openingTag mark as).Counts fun n v ts n' =>
      c.Edged marks n (v.2.flatMap Attribute.walk) ts n' ∧ Bounded v.1.place ts start stop := by
  obtain ⟨-, hstart, hstop, nameStop, last, close, ht⟩ := h
  have hsize := ht.size
  have hlast := ht.attributes.le
  have hclose := ht.before
  have hend := ht.stop_le.1
  have hstart' : (mark.startTag.getD mark.whole).start = start := hstart
  have hstop' : (mark.startTag.getD mark.whole).stop = stop := hstop
  unfold openingTag punctuator
  simp only [hstart', hstop']
  refine Emission.Counts.bind ((Emission.ensures_ofExcept (Q := fun _ ts => ts = [])
    fun _ _ => rfl).counts (Emission.asks_ofExcept _)) fun slash => ?_
  refine Emission.Counts.bind ((ensures_token _).counts (c.asks_token _ _ _)) fun _ => ?_
  refine Emission.Counts.bind (Emission.Ensures.counts (S := fun _ _ => True)
    (fun _ _ _ => trivial) (c.asks_tagName _ _)) fun _ => ?_
  refine Emission.Counts.bind (counts_attributes marks ht.attributes) fun attributes => ?_
  refine Emission.Counts.bind ((ensures_token _).counts (c.asks_token _ _ _)) fun _ => ?_
  refine Emission.Counts.bind (ensures_place.counts (c.asks_place _ _)) fun p => ?_
  refine Emission.counts_pure ?_
  rintro _ _ us ⟨rfl, rfl, hpstart, hpstop⟩ _ closing ⟨rfl, hclosing⟩ mid inner hattributes n1 name
    ⟨rfl, -⟩ n2 opening ⟨rfl, hopening⟩ n3 silent ⟨rfl, rfl⟩
  rw [if_pos (by omega)] at hopening
  rw [if_pos (by split <;> omega)] at hclosing
  obtain ⟨t, rfl, hopen⟩ := hopening
  obtain ⟨t', rfl, hclose⟩ := hclosing
  refine ⟨hattributes.mono fun u hu => by simp [hu], ?_⟩
  refine bounded_of_parts ⟨Int.ofNat_inj.1 hpstart, Int.ofNat_inj.1 hpstop⟩ ?_ ?_ hopen hclose
    (by omega) (by omega) (by split <;> omega)
  · simp
  · simp

/-- **An end tag**, where there is one. -/
theorem ensures_closingTag {mark : Markup.ElementMark} (h : mark.ClosesAt c.text start stop) :
    (c.closingTag mark).Ensures fun v ts =>
      (v = none ∧ start = stop) ∨ ∃ tag, v = some tag ∧ Bounded tag.place ts start stop := by
  obtain ⟨-, h⟩ := h
  unfold closingTag punctuator
  cases htag : mark.endTag with
  | none =>
    rw [htag] at h
    exact Emission.ensures_pure (.inl ⟨rfl, h⟩)
  | some tag =>
    rw [htag] at h
    obtain ⟨hstart, hstop, nameStop, ht⟩ := h
    have hsize := ht.size
    have hbefore := ht.before
    simp only [hstart, hstop]
    refine Emission.Ensures.bind (ensures_token _) fun _ => ?_
    refine Emission.Ensures.bind (P := fun _ _ => True) (fun _ _ _ => trivial) fun _ => ?_
    refine Emission.Ensures.bind (ensures_token _) fun _ => ?_
    refine Emission.Ensures.bind ensures_place fun p => ?_
    refine Emission.ensures_pure ?_
    rintro us ⟨rfl, hpstart, hpstop⟩ closing hclosing name - opening hopening
    rw [if_pos (by omega)] at hopening hclosing
    obtain ⟨t, rfl, hopen⟩ := hopening
    obtain ⟨t', rfl, hclose⟩ := hclosing
    refine .inr ⟨_, rfl, bounded_of_parts ⟨Int.ofNat_inj.1 hpstart, Int.ofNat_inj.1 hpstop⟩ ?_ ?_
      hopen hclose (by omega) (by omega) (by omega)⟩
    · simp
    · simp

/-! ## Runs of text -/

/-- Between two offsets the reading ends with a token, or with one of some marks. -/
def Ends (marks : List Mark) (ts : List Token) (start stop : Nat) : Prop :=
  (∃ t ∈ ts, t.range.stop = stop ∧ start ≤ t.range.start) ∨
    ∃ m ∈ marks, (start : Int) ≤ m.start ∧ m.start < m.stop ∧ m.stop = stop

/-- From an offset further back and with more tokens it does as well. -/
theorem Ends.mono {start' : Nat} (h : Ends marks ts start stop) (hts : ∀ t ∈ ts, t ∈ us)
    (hle : start' ≤ start) : Ends marks us start' stop := by
  refine h.imp ?_ ?_
  · rintro ⟨t, ht, hstop, hstart⟩
    exact ⟨t, hts t ht, hstop, Nat.le_trans hle hstart⟩
  · rintro ⟨m, hm, hstart, hlt, hstop⟩
    exact ⟨m, hm, by omega, hlt, hstop⟩

/-- A token that closes a place ends what reaches up to it. -/
theorem ends_of_closesIn {p : Place} {t : Token} (ht : t ∈ ts) (h : t.ClosesIn p.range)
    (hstart : start ≤ p.range.start) (hstop : p.range.stop = stop) : Ends marks ts start stop :=
  .inl ⟨t, ht, h.1.trans hstop, Nat.le_trans hstart h.2⟩

/-- Nodes without expressions that are not empty and begin and end with tokens. -/
theorem edged_singleton {x : Item} (hx : containers [x] = 0)
    (h : (∃ t ∈ ts, t.OpensIn x.place.range) ∧ ∃ t ∈ ts, t.ClosesIn x.place.range) :
    c.Edged marks n [x] ts n := by
  have hforall : c.Edged marks n [x] ts (n + containers [x]) := .of_forall fun y hy _ => by
    obtain rfl := List.mem_singleton.1 hy
    exact h
  rwa [hx] at hforall

/-- The literal text up to an offset, unless there is none. -/
theorem counts_textBefore (marks : List Mark) :
    (if (start : Int) < stop then c.textRun start stop >>= fun r => pure [Node.text r]
      else pure [] : Emission (List Node)).Counts fun n nodes ts n' =>
        c.Edged marks n (Node.walkAll nodes) ts n' ∧ (start < stop → Ends marks ts start stop) := by
  split
  · rename_i hlt
    refine Emission.Counts.bind (ensures_textRun.counts (c.asks_covered _ _ _ _)) fun run => ?_
    refine Emission.counts_pure ?_
    rintro _ n ts ⟨rfl, hrun⟩
    rw [List.append_nil]
    obtain ⟨hstart, hstop⟩ := hrun.1
    have hends := hrun.ends (by omega)
    obtain ⟨t', ht', hclose⟩ := hends.2
    exact ⟨edged_singleton rfl hends, fun _ =>
      ends_of_closesIn ht' hclose (by omega) hrun.1.2⟩
  · rename_i hge
    exact Emission.counts_pure fun n => ⟨.nil [], fun hlt => absurd (Int.ofNat_lt.2 hlt) hge⟩

/-- **A run of text**, from a cursor on. -/
theorem counts_runs (marks : List Mark) (hc : c.Delimits) {cursor : Nat}
    {spans : List (Nat × Nat)} (h : Chained c.text c.opening c.closing cursor stop spans)
    (hstop : stop ≤ c.text.length) :
    (c.runs cursor stop spans).Counts fun n nodes ts n' =>
      c.Edged marks n (Node.walkAll nodes) ts n' ∧
        (cursor < stop → Ends marks ts cursor stop) := by
  induction spans generalizing cursor with
  | nil => exact counts_textBefore marks
  | cons span rest ih =>
    obtain ⟨first, last⟩ := span
    obtain ⟨h1, h2, -, hrest⟩ := h
    have hlast := hrest.le
    rw [runs_cons]
    refine Emission.Counts.bind (counts_textBefore marks) fun before => ?_
    refine Emission.Counts.bind (counts_container (by omega) (by omega)) fun y => ?_
    refine Emission.Counts.bind (ih hrest) fun more => ?_
    refine Emission.counts_pure ?_
    rintro n' mid us ⟨hmore, hends⟩ n1 vs ⟨rfl, hplace, hopen, hclose, -⟩ n ts ⟨hbefore, -⟩
    obtain ⟨t, ht, htopen⟩ := hopen hc.1
    obtain ⟨t', ht', htclose⟩ := hclose hc.2
    have hcontainer : c.Edged marks n1 [.container y] vs (n1 + 1) :=
      .of_forall fun x hx _ => by
        obtain rfl := List.mem_singleton.1 hx
        exact ⟨⟨t, ht, htopen⟩, t', ht', htclose⟩
    refine ⟨?_, fun _ => ?_⟩
    · rw [Node.walkAll_append, Node.walkAll_cons]
      exact (hbefore.mono fun u hu => by simp [hu]).append
        ((hcontainer.mono fun u hu => by simp [hu]).append (hmore.mono fun u hu => by simp [hu]))
    · rcases Nat.lt_or_ge last stop with hlt | hge
      · exact (hends hlt).mono (fun u hu => by simp [hu]) (by omega)
      · have hend : Ends marks vs cursor stop := by
          refine ends_of_closesIn ht' htclose ?_ ?_
          · rw [hplace.1]
            exact h1
          · rw [hplace.2]
            omega
        exact hend.mono (fun u hu => by simp [hu]) (Nat.le_refl _)

/-! ## Entries -/

/-- An element ends with its end tag; without one it ends as its entries do, or with its
start tag when it has none. -/
theorem ends_of_tags {opening : OpeningTag} {closing : Option ClosingTag} {first last : Nat}
    (hfirst : start ≤ first) (hinner : first ≤ last)
    (hopening : Bounded opening.place ts start first)
    (hends : first < last → Ends marks ts first last)
    (hclosing : (closing = none ∧ last = stop) ∨
      ∃ tag, closing = some tag ∧ Bounded tag.place ts last stop) :
    Ends marks ts start stop := by
  rcases hclosing with ⟨-, rfl⟩ | ⟨tag, -, hplace, -, t, ht, hclose⟩
  · rcases Nat.lt_or_ge first last with hlt | hge
    · exact (hends hlt).mono (fun _ h => h) hfirst
    · obtain ⟨hplace, -, t, ht, hclose⟩ := hopening
      exact ends_of_closesIn ht hclose (Nat.le_of_eq hplace.1.symm) (by omega)
  · exact ends_of_closesIn ht hclose (by omega) hplace.2

/-- **The nodes of an element**: its tags, its attributes and what it holds. -/
theorem Edged.element {p : Place} {name : Text} {opening : OpeningTag}
    {closing : Option ClosingTag} {attributes : List Attribute} {children : List Node}
    {first last : Nat} (hplace : p.range.start = start ∧ p.range.stop = stop)
    (hinner : first ≤ last) (hlast : start ≤ first ∧ last ≤ stop)
    (hattributes : c.Edged marks n (attributes.flatMap Attribute.walk) ts mid)
    (hopening : Bounded opening.place ts start first)
    (hchildren : c.Edged marks mid (Node.walkAll children) ts n')
    (hends : Ends marks ts start stop)
    (hclosing : (closing = none ∧ last = stop) ∨
      ∃ tag, closing = some tag ∧ Bounded tag.place ts last stop) :
    c.Edged marks n (Node.element p name opening closing attributes children).walk ts n' := by
  obtain ⟨hopenPlace, ⟨t, ht, htopen⟩, hopenCloses⟩ := hopening
  have hopens : t.OpensIn p.range := by
    obtain ⟨h1, h2, h3⟩ := htopen
    refine ⟨?_, ?_, ?_⟩ <;> omega
  have hwhole : c.Edged marks n
      [.element p name opening closing attributes (Node.items children)] ts n := by
    refine ⟨rfl, fun x hx _ => ?_, fun x hx _ => ?_⟩
    · obtain rfl := List.mem_singleton.1 hx
      exact .inl ⟨t, ht, hopens⟩
    · obtain rfl := List.mem_singleton.1 hx
      rcases hclosing with ⟨rfl, -⟩ | ⟨tag, rfl, htagPlace, -, u, hu, h1, h2⟩
      · -- without an end tag the element may end with an entry that has no token
        rcases hends with ⟨u, hu, hustop, hustart⟩ | ⟨m, hm, hmstart, hmlt, hmstop⟩
        · exact .inl ⟨u, hu, hustop.trans hplace.2.symm, hplace.1.le.trans hustart⟩
        · refine .inr (.inr (.inr ⟨⟨p, name, opening, attributes, Node.items children, rfl⟩, m, hm,
            ?_, hmlt, ?_⟩))
          · change (p.range.start : Int) ≤ m.start
            omega
          · change m.stop = (p.range.stop : Int)
            omega
      · refine .inl ⟨u, hu, ?_, ?_⟩
        · change u.range.stop = p.range.stop
          omega
        · change p.range.start ≤ u.range.start
          omega
  have htag : c.Edged marks n [.openingTag opening] ts n :=
    edged_singleton rfl ⟨⟨t, ht, htopen⟩, hopenCloses⟩
  have hend : c.Edged marks n' (closing.toList.map .closingTag) ts n' := by
    rcases hclosing with ⟨rfl, -⟩ | ⟨tag, rfl, -, hbounded⟩
    · exact .nil ts
    · exact edged_singleton rfl hbounded
  rw [Node.walk_element]
  exact ((hwhole.append (htag.append hattributes)).append hchildren).append hend

/-- A reading that returns no nodes and hands nothing over. -/
theorem counts_quiet {α : Type} {m : Emission α} (hm : m.Asks 0)
    (hends : start < stop → ∀ ts, Ends marks ts start stop) :
    (m >>= fun _ => pure [] : Emission (List Node)).Counts fun n nodes ts n' =>
      c.Edged marks n (Node.walkAll nodes) ts n' ∧ (start < stop → Ends marks ts start stop) := by
  refine Emission.Counts.bind (Emission.Ensures.counts (S := fun _ _ => True)
    (fun _ _ _ => trivial) hm) fun _ => ?_
  refine Emission.counts_pure ?_
  rintro _ n ts ⟨rfl, -⟩
  exact ⟨.nil _, fun hlt => hends hlt _⟩

/-- **An element** whose entries were read between its tags. -/
theorem counts_element (marks : List Mark) {name : Text} {mark : Markup.ElementMark}
    {as : List Markup.Attribute} {children : List Markup.Entry}
    {content : Option (List Markup.Entry)} {first last : Nat}
    (hopen : mark.OpensAt c.text as start first) (hinner : first ≤ last)
    (hclose : mark.ClosesAt c.text last stop)
    (hentries : (c.visitAll (content.getD children)).Counts fun n nodes ts n' =>
      c.Edged marks n (Node.walkAll nodes) ts n' ∧ (first < last → Ends marks ts first last)) :
    (c.visit (.element name mark as children content)).Counts fun n nodes ts n' =>
      c.Edged marks n (Node.walkAll nodes) ts n' ∧ (start < stop → Ends marks ts start stop) := by
  rw [visit_element]
  refine Emission.Counts.bind (counts_openingTag marks hopen) fun opened => ?_
  refine Emission.Counts.bind hentries fun inner => ?_
  refine Emission.Counts.bind ((ensures_closingTag hclose).counts (c.asks_closingTag _))
    fun closing => ?_
  refine Emission.Counts.bind (ensures_place.counts (c.asks_place _ _)) fun p => ?_
  refine Emission.counts_pure ?_
  rintro _ _ us ⟨rfl, rfl, hpstart, hpstop⟩ n' vs ⟨rfl, hclosing⟩ mid ws ⟨hchildren, hends⟩ n ts
    ⟨hattributes, hopening⟩
  have hts : ∀ t ∈ ts, t ∈ ts ++ (ws ++ (vs ++ [])) := fun t ht => by simp [ht]
  have hws : ∀ t ∈ ws, t ∈ ts ++ (ws ++ (vs ++ [])) := fun t ht => by simp [ht]
  have hvs : ∀ t ∈ vs, t ∈ ts ++ (ws ++ (vs ++ [])) := fun t ht => by simp [ht]
  have hopening := hopening.mono hts
  have hends := fun hlt => (hends hlt).mono hws (Nat.le_refl first)
  have hclosing : (closing = none ∧ last = stop) ∨ ∃ tag, closing = some tag ∧
      Bounded tag.place (ts ++ (ws ++ (vs ++ []))) last stop :=
    hclosing.imp id fun ⟨tag, htag, hbounded⟩ => ⟨tag, htag, hbounded.mono hvs⟩
  have hwhole := ends_of_tags hopen.le hinner hopening hends hclosing
  refine ⟨?_, fun _ => hwhole⟩
  rw [Node.walkAll_cons, Node.walkAll_nil, List.append_nil]
  exact .element ⟨Int.ofNat_inj.1 (hpstart.trans hopen.1), Int.ofNat_inj.1
    (hpstop.trans hclose.1)⟩ hinner ⟨hopen.le, hclose.le⟩
    (hattributes.mono hts) hopening (hchildren.mono hws) hwhole hclosing

mutual
/-- **An entry** of well-formed markup. -/
theorem counts_visit (marks : List Mark) (hc : c.Delimits) : ∀ (e : Markup.Entry)
    {start stop : Nat}, e.SpannedBy c.text (· = ·) start stop → stop ≤ c.text.length →
    (∀ m ∈ e.walk.filterMap Markup.Entry.quiet?, m ∈ marks) →
    (c.visit e).Counts fun n nodes ts n' =>
      c.Edged marks n (Node.walkAll nodes) ts n' ∧ (start < stop → Ends marks ts start stop)
  | .text m, start, stop, h, hstop, _ => by
    rw [Markup.Entry.SpannedBy] at h
    obtain ⟨h1, h2, hle⟩ := h
    rw [visit, readText, h1, h2]
    exact counts_runs marks hc (chained_interpolations hle hstop) hstop
  | .comment data m, start, stop, h, hstop, hmarks => by
    rw [Markup.Entry.SpannedBy] at h
    obtain ⟨h1, h2, hle⟩ := h
    have hm : m ∈ marks := hmarks m (by simp [Markup.Entry.walk, Markup.Entry.quiet?])
    have hemit : ∀ x, (Emission.emit (.comment x)).Asks 0 := fun _ _ _ _ => rfl
    have hasks : (c.readComment data m).Asks 0 := (c.asks_place _ _).bind fun _ => hemit _
    rw [visit]
    exact counts_quiet hasks fun hlt _ =>
      .inr ⟨m, hm, Int.le_of_eq h1.symm, by omega, h2⟩
  | .other name m, start, stop, h, _, hmarks => by
    rw [Markup.Entry.SpannedBy] at h
    obtain ⟨h1, h2, hle⟩ := h
    have hm : m ∈ marks := hmarks m (by simp [Markup.Entry.walk, Markup.Entry.quiet?])
    rw [visit]
    exact counts_quiet (fun _ _ _ => rfl) fun hlt _ =>
      .inr ⟨m, hm, Int.le_of_eq h1.symm, by omega, h2⟩
  | .element name mark as children content, start, stop, h, hstop, hmarks => by
    rw [Markup.Entry.SpannedBy] at h
    obtain ⟨first, last, hopen, hinner, hclose⟩ := h
    have hlaid : Markup.Laid c.text (· = ·) first (content.getD children) last := by
      cases content <;> exact hinner
    have hle := Markup.Laid.le (fun a b h => Nat.le_of_eq h) _ hlaid
    refine counts_element marks hopen hle hclose ?_
    cases content with
    | some entries =>
      rw [Markup.Entry.walk] at hmarks
      exact counts_visitAll marks hc entries hlaid (Nat.le_trans hclose.le hstop) hmarks
    | none =>
      rw [Markup.Entry.walk] at hmarks
      exact counts_visitAll marks hc children hlaid (Nat.le_trans hclose.le hstop) hmarks
  | .fragment _, _, _, h, _, _ => by rw [Markup.Entry.SpannedBy] at h; exact h.elim
  | .document _, _, _, h, _, _ => by rw [Markup.Entry.SpannedBy] at h; exact h.elim

/-- **Several entries**, without a gap between them. -/
theorem counts_visitAll (marks : List Mark) (hc : c.Delimits) : ∀ (es : List Markup.Entry)
    {start stop : Nat}, Markup.Laid c.text (· = ·) start es stop → stop ≤ c.text.length →
    (∀ m ∈ Markup.quiet es, m ∈ marks) →
    (c.visitAll es).Counts fun n nodes ts n' =>
      c.Edged marks n (Node.walkAll nodes) ts n' ∧ (start < stop → Ends marks ts start stop)
  | [], start, stop, h, _, _ => by
    rw [Markup.Laid] at h
    rw [visitAll]
    exact Emission.counts_pure fun n => ⟨.nil [], fun hlt => absurd h (by omega)⟩
  | e :: es, start, stop, h, hstop, hmarks => by
    rw [Markup.Laid] at h
    obtain ⟨_, last, rfl, he, hes⟩ := h
    have hlast := Markup.Laid.le (fun a b h => Nat.le_of_eq h) es hes
    have hmarks' : (∀ m ∈ e.walk.filterMap Markup.Entry.quiet?, m ∈ marks) ∧
        ∀ m ∈ Markup.quiet es, m ∈ marks := by
      unfold Markup.quiet at hmarks
      rw [Markup.walkAll, List.filterMap_append, List.forall_mem_append] at hmarks
      exact hmarks
    rw [visitAll]
    refine Emission.Counts.bind (counts_visit marks hc e he (Nat.le_trans hlast hstop) hmarks'.1)
      fun first => ?_
    refine Emission.Counts.bind (counts_visitAll marks hc es hes hstop hmarks'.2) fun more => ?_
    refine Emission.counts_pure ?_
    rintro n' mid us ⟨hmore, hmoreEnds⟩ n ts ⟨hfirst, hfirstEnds⟩
    rw [List.append_nil, Node.walkAll_append]
    refine ⟨(hfirst.mono fun t ht => List.mem_append_left us ht).append
      (hmore.mono fun t ht => List.mem_append_right ts ht), fun hlt => ?_⟩
    rcases Nat.lt_or_ge last stop with hbefore | hge
    · exact (hmoreEnds hbefore).mono (fun t ht => List.mem_append_right ts ht)
        (Markup.Entry.SpannedBy.le (fun a b h => Nat.le_of_eq h) e he)
    · obtain rfl : last = stop := Nat.le_antisymm hlast hge
      exact (hfirstEnds hlt).mono (fun t ht => List.mem_append_left us ht) (Nat.le_refl _)
end

/-- **A document** around well-formed markup. -/
theorem counts_readDocument (hc : c.Delimits) {entries : List Markup.Entry}
    (h : Markup.WellFormed c.text (· = ·) entries start stop) :
    (c.readDocument entries).Counts fun n root ts n' =>
      c.Edged (Markup.quiet entries) n (Node.walkAll root.children) ts n' := by
  refine Emission.Counts.bind (counts_visitAll (Markup.quiet entries) hc entries h.laid h.inside
    fun _ hm => hm) fun children => ?_
  refine Emission.Counts.bind (ensures_place.counts (c.asks_place _ _)) fun p => ?_
  refine Emission.counts_pure ?_
  rintro _ n' us ⟨rfl, rfl, -⟩ n ts ⟨hchildren, -⟩
  exact hchildren.mono fun t ht => List.mem_append_left _ ht

end Context

/-! ## Lookups -/

/-- **Nodes are found by their ends.** Over well-formed markup with checked settings, the
store of a result finds the first and the last token of every node below the root that is
not empty, and they stand at its ends. Three kinds of node are exempt: a directive value
without quotes, and for its end its attribute, where no token of the value's own expression
stands at that end; an attribute whose value is an empty node; and an element without end
tag that ends with a comment or a skipped entry. -/
theorem boundaries_of_transform {text : Text} {entries : List Markup.Entry}
    {parser : ScriptParser} {settings : TemplateSettings} {start stop : Nat} {t : Transformer}
    {result : Result} (hmarkup : Markup.WellFormed text (· = ·) entries start stop)
    (hsettings : ∃ fields, TemplateSettings.ofFields fields = .ok settings)
    (hok : transform entries text parser settings = (t, .ok result)) :
    ∀ x ∈ Node.walkAll result.root.children, x.place.range.start < x.place.range.stop →
      (result.store.OpensAt x.place.range ∨
        ∃ a y us, (Context.ofSettings text parser settings transformerName).BareValue 0
          (Node.walkAll result.root.children) a y us ∧ x = .container y ∧
            ∀ u ∈ us, ¬ u.OpensIn y.place.range) ∧
      (result.store.ClosesAt x.place.range ∨
        (∃ a y us, (Context.ofSettings text parser settings transformerName).BareValue 0
          (Node.walkAll result.root.children) a y us ∧ (x = .attr a ∨ x = .container y) ∧
            ∀ u ∈ us, ¬ u.ClosesIn y.place.range) ∨
        x.EmptyValued ∨ x.EndsQuietly (Markup.quiet entries)) := by
  obtain ⟨fields, hfields⟩ := hsettings
  obtain ⟨hresult, htokens⟩ := Transformer.read_of_start (congrArg Prod.snd hok)
  have hedged := Context.counts_readDocument
    (delimits_ofSettings hfields text parser transformerName) hmarkup 0 result.root hresult
  intro x hx hlt
  refine ⟨(hedged.opened x hx hlt).imp ?_ id, (hedged.closed x hx hlt).imp ?_ id⟩
  · rintro ⟨u, hu, hopen⟩
    exact TokenStore.opensAt_of_mem (htokens ▸ hu) hopen
  · rintro ⟨u, hu, hclose⟩
    exact TokenStore.closesAt_of_mem (htokens ▸ hu) hclose

/-- All nodes of an interpolation and of the tags around it are found. -/
theorem boundaries_of_interpolation :
    ∃ t result, transform [Interpolation.element.entry] Interpolation.text Interpolation.parser {} =
      (t, .ok result) ∧
        ∀ x ∈ Node.walkAll result.root.children, x.place.range.start < x.place.range.stop →
          result.store.OpensAt x.place.range ∧ result.store.ClosesAt x.place.range := by
  have hwalk : (match transform [Interpolation.element.entry] Interpolation.text
      Interpolation.parser {} with
      | (_, .ok result) => (Node.walkAll result.root.children).all fun
          | .attr _ => false
          | _ => true
      | _ => false) = true := by decide +kernel
  rcases htransform : transform [Interpolation.element.entry] Interpolation.text
    Interpolation.parser {} with ⟨t, e | result⟩
  · rw [htransform] at hwalk
    cases hwalk
  · rw [htransform] at hwalk
    -- without attributes there are no values, and there are no comments either
    have hnone : ∀ a, .attr a ∉ Node.walkAll result.root.children := fun a ha =>
      Bool.false_ne_true (List.all_eq_true.1 hwalk _ ha)
    refine ⟨t, result, rfl, fun x hx hlt => ?_⟩
    obtain ⟨hopens, hcloses⟩ := boundaries_of_transform Interpolation.wellFormed ⟨[], rfl⟩
      htransform x hx hlt
    refine ⟨hopens.resolve_right ?_, hcloses.resolve_right ?_⟩
    · rintro ⟨a, -, -, ⟨i, hi, -⟩, -⟩
      exact hnone a (List.mem_of_getElem? hi)
    · rintro (⟨a, -, -, ⟨i, hi, -⟩, -⟩ | ⟨a, -, rfl, -⟩ | ⟨-, m, hm, -⟩)
      · exact hnone a (List.mem_of_getElem? hi)
      · exact hnone a hx
      · cases hm

/-- An element without end tag that ends with a comment has no token at its end. -/
example :
    (match transform [.element ['p'] ⟨⟨0, 10, 1, 1⟩, some ⟨0, 3, 1, 1⟩, none⟩ []
        [.comment [] ⟨3, 10, 1, 4⟩] none] "<p><!---->".toList SlashValue.parser {} with
      | (_, .ok result) => (result.store.lastToken ⟨0, 10, by omega⟩ 0 true).toOption.isNone
      | _ => false) = true := by
  decide +kernel

/-- Nor has an attribute whose value is a blank beyond ASCII. -/
example :
    (match transform [.element ['a'] ⟨⟨0, 7, 1, 1⟩, some ⟨0, 7, 1, 1⟩, none⟩
        [⟨['b'], ['\u00a0'], ⟨3, 6, 1, 4⟩⟩] [] none] ("<a b=".toList ++ ['\u00a0', '>'])
        SlashValue.parser {} with
      | (_, .ok result) => (result.store.lastToken ⟨3, 6, by omega⟩ 0 true).toOption.isNone
      | _ => false) = true := by
  decide +kernel

/-! ## A bare value that is rejected -/

namespace BareRejected

/-- A tag with a directive value of one sign, without quotes. -/
def text : Text := "<a :b=+>".toList

/-- Its element. -/
def element : Markup.Element :=
  ⟨['a'], ⟨⟨0, 8, 1, 1⟩, some ⟨0, 8, 1, 1⟩, none⟩, [⟨[':', 'b'], ['+'], ⟨3, 7, 1, 4⟩⟩], [], none⟩

theorem startTag : Markup.StartTagAt text element.attributes 0 2 7 7 8 where
  opens := rfl
  size := by decide
  name := by decide
  attributes := .cons rfl rfl (by decide) (by decide)
    (.assigned (by decide) (by decide) (Nat.le_refl 5) (by decide) rfl (Nat.le_refl 6)
      (by decide) (.bare (by decide) (by decide))) (.nil 7)
  before := by decide
  blank := by decide
  closes := .inl ⟨rfl, rfl⟩

theorem wellFormed : Markup.WellFormed text (· = ·) [element.entry] 0 8 where
  laid := by
    simp only [Markup.Element.entry, Markup.Laid, Markup.Entry.SpannedBy]
    exact ⟨0, 8, rfl, ⟨8, 8, ⟨rfl, rfl, rfl, 2, 7, 7, startTag⟩, rfl, rfl, rfl⟩, rfl⟩
  inside := by decide

end BareRejected

/-- **Not every node is found**: the value has no quotes, and no tokens once its code is
rejected, so there is no token where it starts. -/
theorem bare_value_not_found :
    ¬ ∀ (text : Text) (entries : List Markup.Entry) (parser : ScriptParser)
        (settings : TemplateSettings) (start stop : Nat) (t : Transformer) (result : Result),
      Markup.WellFormed text (· = ·) entries start stop →
        (∃ fields, TemplateSettings.ofFields fields = .ok settings) →
          transform entries text parser settings = (t, .ok result) →
            ∀ x ∈ Node.walkAll result.root.children,
              x.place.range.start < x.place.range.stop →
                result.store.OpensAt x.place.range ∧ result.store.ClosesAt x.place.range := by
  intro h
  have hmissing : (match transform [BareRejected.element.entry] BareRejected.text
      SlashValue.parser {} with
      | (_, .ok result) => (Node.walkAll result.root.children).all fun x =>
          decide (x.place.range.start < x.place.range.stop) →
            (result.store.firstToken x.place.range 0 true).toOption.isSome
      | _ => true) = false := by decide +kernel
  rcases htransform : transform [BareRejected.element.entry] BareRejected.text
    SlashValue.parser {} with ⟨t, e | result⟩
  · rw [htransform] at hmissing
    cases hmissing
  · rw [htransform] at hmissing
    refine absurd (List.all_eq_true.2 fun x hx => ?_) (ne_true_of_eq_false hmissing)
    refine decide_eq_true fun hlt => ?_
    obtain ⟨⟨u, hu, -⟩, -⟩ := h _ _ _ _ _ _ _ _ BareRejected.wellFormed ⟨[], rfl⟩ htransform x hx
      (of_decide_eq_true hlt)
    rw [hu]
    rfl

end Template

end SingleFile
