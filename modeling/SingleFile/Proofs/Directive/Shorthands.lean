import SingleFile.Proofs.Directive.Parts
import SingleFile.Proofs.Settings.Delimiters

/-!
# Directives — shorthands and long forms

A shorthand stands for a directive in long form. The two are directives
together (`isDirective_append`), whatever the spellings are: what comes
before the argument cannot end a directive, so only the rest decides. They
are taken apart to the same parts just when the spellings are told apart
(`agree_iff`): a lead that holds a colon is divided there, a lead that
begins with a shorthand is read as the shorthand, a shorthand that begins
with the lead loses it, and the second shorthand is not reached when it
begins with the first.
-/

namespace SingleFile

namespace DirectiveRules

variable {r : DirectiveRules} {raw front rest sigil word t u : Text} {d : Char}
  {argument : Option Text} {modifiers : List Text}

/-- A directive in long form: the lead, its name, a colon, and the rest. -/
def longForm (r : DirectiveRules) (word rest : Text) : Text := r.lead ++ word ++ ':' :: rest

/-- **Two names of one directive**: they have the same argument and modifiers, and both have the
directive as their canonical name. -/
structure Agree (r : DirectiveRules) (word name other : Text) : Prop where
  argument : (r.decompose name).argument = (r.decompose other).argument
  modifiers : (r.decompose name).modifiers = (r.decompose other).modifiers
  canonical : r.canonicalName (r.decompose name) = word
  canonical_other : r.canonicalName (r.decompose other) = word

/-! ## Which names are directives -/

/-- No directive ends in a text: none of its characters may end one, or its last is a colon. -/
def Closes (r : DirectiveRules) (t : Text) : Prop :=
  (∀ d ∈ t, r.mayEnd d = false) ∨ t.getLast? = some ':'

/-- Nor does one end in its last part. -/
theorem Closes.suffix (h : r.Closes t) (hu : u <:+ t) : r.Closes u := by
  obtain ⟨front, rfl⟩ := hu
  by_cases hnil : u = []
  · subst hnil
    exact .inl (List.forall_mem_nil _)
  · rcases h with h | h
    · exact .inl fun d hd => h d (List.mem_append_right front hd)
    · exact .inr (List.getLast?_append_of_ne_nil front hnil ▸ h)

/-- No text that closes ends with a character that may end a directive. -/
theorem Closes.mayEnd_head (h : r.Closes t) {before : Text} (ht : t.reverse = d :: before) :
    r.mayEnd d = false := by
  rcases h with h | h
  · exact h d (List.mem_reverse.1 (ht ▸ List.mem_cons_self))
  · rw [List.getLast?_eq_head?_reverse, ht] at h
    obtain rfl := Option.some.inj h
    simp [mayEnd]

/-- **What may follow a lead** is decided by the part behind one in which no directive ends. -/
theorem mayFollow_append (h : r.Closes u) : r.mayFollow (u ++ t) = r.mayFollow t := by
  have hhead : ∀ {d before}, u.reverse = d :: before → r.mayEnd d = false := h.mayEnd_head
  unfold mayFollow
  rw [List.reverse_append]
  -- only the last two characters count
  rcases t.reverse with _ | ⟨c, _ | ⟨d, before⟩⟩
  · rw [List.nil_append]
    rcases hu : u.reverse with _ | ⟨c, _ | ⟨d, before⟩⟩
    · rfl
    · simp [hhead hu]
    · have hclosed : c = '\n' → r.mayEnd d = false := by
        rintro rfl
        rcases h with h | h
        · exact h d (List.mem_reverse.1 (hu ▸ by simp))
        · rw [List.getLast?_eq_head?_reverse, hu] at h
          cases h
      by_cases hc : c = '\n'
      · simp [hhead hu, hclosed hc]
      · simp [hhead hu, hc]
  · rcases hu : u.reverse with _ | ⟨d, before⟩
    · rfl
    · simp [hhead hu]
  · rfl

/-- What may follow may also follow with more in front of it. -/
theorem mayFollow_of_suffix (h : u <:+ t) (hu : r.mayFollow u = true) : r.mayFollow t = true := by
  obtain ⟨front, rfl⟩ := h
  unfold mayFollow at hu ⊢
  rw [List.reverse_append]
  rcases hback : u.reverse with _ | ⟨c, _ | ⟨d, before⟩⟩
  · rw [hback] at hu
    cases hu
  · rw [hback] at hu
    simp only [Bool.and_false, Bool.or_false] at hu
    simp [hu]
  · rw [hback] at hu
    exact hu

/-- **A name that goes on behind a text in which no directive ends** is a directive when the rest
may follow. -/
theorem isDirective_append {lead : Text} (hlead : lead ∈ [r.lead, r.bind, r.event])
    (hfront : lead <+: front) (h : r.Closes front) :
    r.isDirective (front ++ t) = r.mayFollow t := by
  rw [Bool.eq_iff_iff, isDirective_iff]
  constructor
  · rintro ⟨other, -, rest, heq, hrest⟩
    rcases List.append_eq_append_iff.1 heq with ⟨more, -, rfl⟩ | ⟨more, rfl, rfl⟩
    · exact mayFollow_of_suffix (List.suffix_append more rest) hrest
    · rwa [mayFollow_append (h.suffix (List.suffix_append other more))] at hrest
  · intro ht
    obtain ⟨more, rfl⟩ := hfront
    refine ⟨lead, hlead, more ++ t, List.append_assoc _ _ _, ?_⟩
    rwa [mayFollow_append (h.suffix (List.suffix_append lead more))]

/-- A shorthand and the rest. -/
theorem isDirective_shorthand (hsigil : sigil = r.bind ∨ sigil = r.event) :
    r.isDirective (sigil ++ t) = r.mayFollow t := by
  have hlead : sigil ∈ [r.lead, r.bind, r.event] := by
    rcases hsigil with rfl | rfl <;> simp
  exact isDirective_append hlead List.prefix_rfl (.inl fun d hd => mayEnd_of_mem_sigil hsigil hd)

/-- A long form and the rest. -/
theorem isDirective_longForm : r.isDirective (r.longForm word t) = r.mayFollow t := by
  have hfront : r.longForm word t = (r.lead ++ (word ++ [':'])) ++ t := by
    simp [longForm]
  have hlead : r.lead ∈ [r.lead, r.bind, r.event] := List.mem_cons_self
  rw [hfront]
  exact isDirective_append hlead (List.prefix_append _ _) (.inr (by simp))

/-! ## Canonical names -/

/-- In long form the name is canonical. -/
theorem canonicalName_of_long : r.canonicalName ⟨word, argument, modifiers, false⟩ = word := by
  simp [canonicalName]

/-- Which shorthands, or what is left of them, stand for `bind`. -/
theorem canonicalName_eq_bind_iff :
    r.canonicalName ⟨sigil, argument, modifiers, true⟩ = ['b', 'i', 'n', 'd'] ↔
      sigil = r.bind ∨ sigil ≠ r.event ∧ sigil = ['b', 'i', 'n', 'd'] := by
  unfold canonicalName
  by_cases hbind : sigil = r.bind
  · simp [hbind]
  · by_cases hevent : sigil = r.event
    · simp [hevent]
    · simp [hbind, hevent]

/-- And which stand for `on`. -/
theorem canonicalName_eq_on_iff :
    r.canonicalName ⟨sigil, argument, modifiers, true⟩ = ['o', 'n'] ↔
      sigil ≠ r.bind ∧ (sigil = r.event ∨ sigil = ['o', 'n']) := by
  unfold canonicalName
  by_cases hbind : sigil = r.bind
  · simp [hbind]
  · by_cases hevent : sigil = r.event
    · simp [hevent]
    · simp [hbind, hevent]

/-! ## Where the spellings are told apart -/

/-- The first shorthand is always read as itself. -/
theorem shorthand?_bind : r.shorthand? (r.bind ++ t) = some (r.bind, t) :=
  shorthand?_eq_some_iff.2 ⟨rfl, .inl rfl⟩

/-- The second one is when the first is not read in its place. -/
theorem shorthand?_event (h : ¬ r.bind <+: r.event ++ t) :
    r.shorthand? (r.event ++ t) = some (r.event, t) :=
  shorthand?_eq_some_iff.2 ⟨rfl, .inr ⟨rfl, h⟩⟩

/-- A long form begins with what the lead begins with. -/
theorem isPrefix_longForm (h : sigil <+: r.lead) : sigil <+: r.longForm word t := by
  unfold longForm
  rw [List.append_assoc]
  exact h.trans (List.prefix_append _ _)

/-- A long form does not begin with what is told apart from the lead. -/
theorem not_isPrefix_longForm (h : ¬ r.lead <+: sigil) (h' : ¬ sigil <+: r.lead) :
    ¬ sigil <+: r.longForm word t := by
  intro hsigil
  rcases List.prefix_or_prefix_of_prefix hsigil (isPrefix_longForm List.prefix_rfl) with hp | hp
  · exact h' hp
  · exact h hp

/-- **A long form is taken apart at its colon**, where the spellings are told apart. -/
theorem Separate.decompose_longForm (hr : r.Separate) (hword : ':' ∉ word) :
    r.decompose (r.longForm word t) = ⟨word, some (t.pieces '.').1, (t.pieces '.').2, false⟩ := by
  have hnone : r.shorthand? (r.longForm word t) = none :=
    shorthand?_eq_none_iff.2 ⟨not_isPrefix_longForm hr.lead_bind hr.bind_lead,
      not_isPrefix_longForm hr.lead_event hr.event_lead⟩
  have hfront : ':' ∉ r.lead ++ word := by
    rw [List.mem_append]
    exact not_or.2 ⟨hr.noColon, hword⟩
  rw [decompose_of_colon hnone rfl hfront, dropLead_append]

/-- **The first shorthand means `bind`.** -/
theorem Separate.agree_bind (hr : r.Separate) :
    r.Agree ['b', 'i', 'n', 'd'] (r.bind ++ t) (r.longForm ['b', 'i', 'n', 'd'] t) := by
  have hlong : r.decompose (r.longForm ['b', 'i', 'n', 'd'] t) = ⟨_, _, _, false⟩ :=
    hr.decompose_longForm (by decide)
  have hshort := decompose_of_shorthand (r := r) (shorthand?_bind (t := t))
  rw [dropLead_of_not_isPrefix hr.lead_bind] at hshort
  refine ⟨by rw [hshort, hlong], by rw [hshort, hlong], ?_, ?_⟩
  · rw [hshort]
    exact canonicalName_eq_bind_iff.2 (.inl rfl)
  · rw [hlong, canonicalName_of_long]

/-- **The second one means `on`**, unless the first is read in its place. -/
theorem Separate.agree_event (hr : r.Separate) (h : ¬ r.bind <+: r.event ++ t) :
    r.Agree ['o', 'n'] (r.event ++ t) (r.longForm ['o', 'n'] t) := by
  have hlong : r.decompose (r.longForm ['o', 'n'] t) = ⟨_, _, _, false⟩ :=
    hr.decompose_longForm (by decide)
  have hshort := decompose_of_shorthand (shorthand?_event h)
  rw [dropLead_of_not_isPrefix hr.lead_event] at hshort
  refine ⟨by rw [hshort, hlong], by rw [hshort, hlong], ?_, ?_⟩
  · rw [hshort]
    refine canonicalName_eq_on_iff.2 ⟨fun heq => ?_, .inl rfl⟩
    exact h (heq ▸ List.prefix_append _ _)
  · rw [hlong, canonicalName_of_long]

/-! ## Where they are not -/

/-- The rest of a name is known from its argument and its modifiers. -/
theorem eq_of_argument_eq {name : Text} {short : Bool}
    (h : r.decompose raw = ⟨name, some (rest.pieces '.').1, (rest.pieces '.').2, short⟩)
    (hargument : (r.decompose raw).argument = some (t.pieces '.').1)
    (hmodifiers : (r.decompose raw).modifiers = (t.pieces '.').2) : rest = t := by
  rw [h] at hargument hmodifiers
  exact Text.eq_of_pieces_eq (Prod.ext (Option.some.inj hargument) hmodifiers)

/-- **A long form whose parts are as it says** is read as one, unless a shorthand is all of it but
the rest. -/
theorem longForm_cases (hargument : (r.decompose (r.longForm word t)).argument =
      some (t.pieces '.').1)
    (hmodifiers : (r.decompose (r.longForm word t)).modifiers = (t.pieces '.').2) :
    r.shorthand? (r.longForm word t) = none ∧ ':' ∉ r.lead ∨
      r.shorthand? (r.longForm word t) = some (r.lead ++ word ++ [':'], t) := by
  cases hshort : r.shorthand? (r.longForm word t) with
  | some found =>
    obtain ⟨sigil, rest⟩ := found
    obtain ⟨hraw, -⟩ := shorthand?_eq_some_iff.1 hshort
    obtain rfl := eq_of_argument_eq (decompose_of_shorthand hshort) hargument hmodifiers
    have hsplit : r.longForm word rest = (r.lead ++ word ++ [':']) ++ rest := by
      simp [longForm]
    rw [List.append_cancel_right (hraw.symm.trans hsplit)]
    exact .inr rfl
  | none =>
    refine .inl ⟨rfl, fun hcolon => ?_⟩
    -- were there a colon in the lead, the argument would hold more than the rest
    obtain ⟨front, back, hlead, hfront⟩ := List.eq_append_cons_of_mem hcolon
    have hraw : r.longForm word t = front ++ ':' :: (back ++ word ++ ':' :: t) := by
      simp [longForm, hlead]
    have heq := eq_of_argument_eq (decompose_of_colon hshort hraw hfront) hargument hmodifiers
    have hlength := congrArg List.length heq
    simp only [List.length_append, List.length_cons] at hlength
    omega

/-- What is left of a shorthand that begins with the lead. -/
theorem exists_of_isPrefix (h : r.lead <+: sigil) :
    ∃ left, sigil = r.lead ++ left ∧ r.dropLead sigil = left := by
  obtain ⟨left, rfl⟩ := h
  exact ⟨left, rfl, dropLead_append r left⟩

section

variable (hlead : r.lead ≠ [])

include hlead

/-- No text is its own rest behind the lead. -/
theorem lead_append_ne (t : Text) : t ≠ r.lead ++ t := by
  intro heq
  have hlength := congrArg List.length heq
  have := List.length_pos_iff.2 hlead
  rw [List.length_append] at hlength
  omega

/-- **A shorthand and a long form that agree on `bind`.** Either the long form is read as one, with
the lead told apart from the first shorthand and holding no colon, or the two shorthands spell the
name of the directive and its long form. -/
theorem cases_of_agree_bind
    (h : r.Agree ['b', 'i', 'n', 'd'] (r.bind ++ t) (r.longForm ['b', 'i', 'n', 'd'] t)) :
    (r.shorthand? (r.longForm ['b', 'i', 'n', 'd'] t) = none ∧ ':' ∉ r.lead ∧
        ¬ r.lead <+: r.bind) ∨
      r.bind = ['b', 'i', 'n', 'd', ':'] ∧ r.event = r.lead ++ ['b', 'i', 'n', 'd', ':'] := by
  have hshort := decompose_of_shorthand (r := r) (shorthand?_bind (t := t))
  have hcanonical := h.canonical
  have hargument := h.argument
  have hmodifiers := h.modifiers
  rw [hshort] at hcanonical hargument hmodifiers
  rcases longForm_cases hargument.symm hmodifiers.symm with ⟨hnone, hcolon⟩ | hsome
  · refine .inl ⟨hnone, hcolon, fun hprefix => ?_⟩
    obtain ⟨left, hbind, hleft⟩ := exists_of_isPrefix hprefix
    rw [hleft] at hcanonical
    rcases canonicalName_eq_bind_iff.1 hcanonical with heq | ⟨-, rfl⟩
    · exact lead_append_ne hlead left (heq.trans hbind)
    · -- the long form would begin with the shorthand
      refine (shorthand?_eq_none_iff.1 hnone).1 ?_
      rw [hbind]
      exact List.prefix_append _ _
  · have hother := h.canonical_other
    rw [decompose_of_shorthand hsome, List.append_assoc, dropLead_append] at hother
    obtain ⟨-, hsigil⟩ := shorthand?_eq_some_iff.1 hsome
    rw [List.append_assoc] at hsigil
    rcases canonicalName_eq_bind_iff.1 hother with hbind | ⟨-, hword⟩
    · rcases hsigil with hsigil | ⟨hsigil, -⟩
      · exact absurd (hbind.trans hsigil.symm) (lead_append_ne hlead _)
      · exact .inr ⟨hbind.symm, hsigil.symm⟩
    · cases hword

/-- A second shorthand that spells a long form of `bind` comes to `bind` without the lead, and so is
not named `on`. -/
theorem canonicalName_ne_on_of_spelled (hshort : r.bind = ['b', 'i', 'n', 'd', ':'])
    (hlong : r.event = r.lead ++ ['b', 'i', 'n', 'd', ':']) :
    r.canonicalName (r.decompose (r.event ++ t)) ≠ ['o', 'n'] := by
  intro hcanonical
  by_cases hfirst : r.bind <+: r.event ++ t
  · obtain ⟨rest, hrest⟩ := hfirst
    rw [← hrest, decompose_of_shorthand shorthand?_bind] at hcanonical
    obtain ⟨hne, heq⟩ := canonicalName_eq_on_iff.1 hcanonical
    by_cases hprefix : r.lead <+: r.bind
    · obtain ⟨left, hsplit, hleft⟩ := exists_of_isPrefix hprefix
      rw [hleft] at heq
      rcases heq with heq | rfl
      · have hlength := congrArg List.length hsplit
        have hpos := List.length_pos_iff.2 hlead
        rw [heq, hlong, hshort] at hlength
        simp only [List.length_append, List.length_cons, List.length_nil] at hlength
        omega
      · have hlast := congrArg List.getLast? (hshort.symm.trans hsplit)
        simp at hlast
    · exact hne (dropLead_of_not_isPrefix hprefix)
  · rw [decompose_of_shorthand (shorthand?_event hfirst), hlong, dropLead_append] at hcanonical
    exact (canonicalName_eq_on_iff.1 hcanonical).1 hshort.symm

/-- A second shorthand that agrees with its long form does not begin with the lead, where the first
one is told apart from the lead. -/
theorem not_isPrefix_event_of_agree (hlead_bind : ¬ r.lead <+: r.bind)
    (hbind_lead : ¬ r.bind <+: r.lead) (hfirst : ¬ r.bind <+: r.event ++ t)
    (h : r.Agree ['o', 'n'] (r.event ++ t) (r.longForm ['o', 'n'] t)) : ¬ r.lead <+: r.event := by
  intro hprefix
  obtain ⟨left, hsplit, hleft⟩ := exists_of_isPrefix hprefix
  have hparts := decompose_of_shorthand (shorthand?_event hfirst)
  have hcanonical := h.canonical
  rw [hparts, hleft] at hcanonical
  rcases (canonicalName_eq_on_iff.1 hcanonical).2 with heq | rfl
  · exact lead_append_ne hlead left (heq.trans hsplit)
  · -- the long form is read as the shorthand, with the colon in its argument
    have hraw : r.longForm ['o', 'n'] t = r.event ++ ':' :: t := by
      rw [longForm, hsplit]
    have hread : r.shorthand? (r.longForm ['o', 'n'] t) = some (r.event, ':' :: t) :=
      shorthand?_eq_some_iff.2 ⟨hraw, .inr ⟨rfl, not_isPrefix_longForm hlead_bind hbind_lead⟩⟩
    have hargument := h.argument
    have hmodifiers := h.modifiers
    rw [hparts] at hargument hmodifiers
    exact List.cons_ne_self _ _
      (eq_of_argument_eq (decompose_of_shorthand hread) hargument.symm hmodifiers.symm)

/-- **Both shorthands agree with their long forms** only where the spellings are told apart. -/
theorem separate_of_agree
    (hbind : r.Agree ['b', 'i', 'n', 'd'] (r.bind ++ t) (r.longForm ['b', 'i', 'n', 'd'] t))
    (hevent : r.Agree ['o', 'n'] (r.event ++ t) (r.longForm ['o', 'n'] t)) :
    r.Separate ∧ ¬ r.bind <+: r.event ++ t := by
  have hcanonical := hevent.canonical
  rcases cases_of_agree_bind hlead hbind with ⟨hnone, hcolon, hlead_bind⟩ | ⟨hshort, hlong⟩
  · obtain ⟨hnot_bind, hnot_event⟩ := shorthand?_eq_none_iff.1 hnone
    have hbind_lead : ¬ r.bind <+: r.lead := fun hp => hnot_bind (isPrefix_longForm hp)
    have hevent_lead : ¬ r.event <+: r.lead := fun hp => hnot_event (isPrefix_longForm hp)
    have hfirst : ¬ r.bind <+: r.event ++ t := by
      rintro ⟨rest, hrest⟩
      rw [← hrest, decompose_of_shorthand shorthand?_bind,
        dropLead_of_not_isPrefix hlead_bind] at hcanonical
      exact (canonicalName_eq_on_iff.1 hcanonical).1 rfl
    have hlead_event := not_isPrefix_event_of_agree hlead hlead_bind hbind_lead hfirst hevent
    exact ⟨⟨hcolon, hlead_bind, hbind_lead, hlead_event, hevent_lead⟩, hfirst⟩
  · exact absurd hcanonical (canonicalName_ne_on_of_spelled hlead hshort hlong)

/-- **When shorthands and long forms agree**: where the spellings are told apart, and the first
shorthand is not read in the place of the second. -/
theorem agree_iff :
    r.Agree ['b', 'i', 'n', 'd'] (r.bind ++ t) (r.longForm ['b', 'i', 'n', 'd'] t) ∧
        r.Agree ['o', 'n'] (r.event ++ t) (r.longForm ['o', 'n'] t) ↔
      r.Separate ∧ ¬ r.bind <+: r.event ++ t := by
  constructor
  · rintro ⟨hbind, hevent⟩
    exact separate_of_agree hlead hbind hevent
  · rintro ⟨hr, h⟩
    exact ⟨hr.agree_bind, hr.agree_event h⟩

/-- **They agree on every argument** when none of the three spellings begins another, and the lead
holds no colon. -/
theorem forall_agree_iff :
    (∀ t, r.Agree ['b', 'i', 'n', 'd'] (r.bind ++ t) (r.longForm ['b', 'i', 'n', 'd'] t) ∧
        r.Agree ['o', 'n'] (r.event ++ t) (r.longForm ['o', 'n'] t)) ↔
      r.Separate ∧ ¬ r.bind <+: r.event ∧ ¬ r.event <+: r.bind := by
  simp only [agree_iff hlead]
  constructor
  · intro h
    refine ⟨(h []).1, ?_, ?_⟩
    · have hnil := (h []).2
      rwa [List.append_nil] at hnil
    · rintro ⟨more, hmore⟩
      exact (h more).2 (hmore ▸ List.prefix_rfl)
  · rintro ⟨hr, hbind, hevent⟩ t
    refine ⟨hr, fun hprefix => ?_⟩
    rcases List.prefix_or_prefix_of_prefix hprefix (List.prefix_append r.event t) with hp | hp
    · exact hbind hp
    · exact hevent hp

end

/-! ## Under checked settings -/

/-- **Shorthands and long forms under checked settings.** They are directives together on every
argument, and they mean the same just when the spellings are told apart and the first shorthand is
not read in the place of the second. So they mean the same on all arguments when the lead holds no
colon and none of the three spellings begins another. -/
theorem agree_iff_of_checked {fields : List (Text × Value)} {s : TemplateSettings}
    (h : TemplateSettings.ofFields fields = .ok s) :
    (∀ t, (ofSettings s).isDirective (s.bindShorthand ++ t) =
          (ofSettings s).isDirective ((ofSettings s).longForm ['b', 'i', 'n', 'd'] t) ∧
        (ofSettings s).isDirective (s.eventShorthand ++ t) =
          (ofSettings s).isDirective ((ofSettings s).longForm ['o', 'n'] t) ∧
        ((ofSettings s).Agree ['b', 'i', 'n', 'd'] (s.bindShorthand ++ t)
              ((ofSettings s).longForm ['b', 'i', 'n', 'd'] t) ∧
            (ofSettings s).Agree ['o', 'n'] (s.eventShorthand ++ t)
              ((ofSettings s).longForm ['o', 'n'] t) ↔
          (ofSettings s).Separate ∧ ¬ s.bindShorthand <+: s.eventShorthand ++ t)) ∧
      ((∀ t, (ofSettings s).Agree ['b', 'i', 'n', 'd'] (s.bindShorthand ++ t)
            ((ofSettings s).longForm ['b', 'i', 'n', 'd'] t) ∧
          (ofSettings s).Agree ['o', 'n'] (s.eventShorthand ++ t)
            ((ofSettings s).longForm ['o', 'n'] t)) ↔
        (ofSettings s).Separate ∧ ¬ s.bindShorthand <+: s.eventShorthand ∧
          ¬ s.eventShorthand <+: s.bindShorthand) := by
  have hlead : (ofSettings s).lead ≠ [] := TemplateSettings.directiveLead_ne_nil h
  refine ⟨fun t => ?_, forall_agree_iff hlead⟩
  have hbind : (ofSettings s).isDirective (s.bindShorthand ++ t) = (ofSettings s).mayFollow t :=
    isDirective_shorthand (.inl rfl)
  have hevent : (ofSettings s).isDirective (s.eventShorthand ++ t) = (ofSettings s).mayFollow t :=
    isDirective_shorthand (.inr rfl)
  refine ⟨?_, ?_, agree_iff hlead⟩
  · rw [hbind, isDirective_longForm]
  · rw [hevent, isDirective_longForm]

/-- The spellings of shorthands may be longer, and one may occur inside the other. -/
theorem agree_iff_of_checked_longer :
    TemplateSettings.ofFields [("bind_shorthand".toList, .string ['#', '@']),
        ("event_shorthand".toList, .string ['@', '#', '@'])] =
          .ok { bindShorthand := ['#', '@'], eventShorthand := ['@', '#', '@'] } ∧
      (ofSettings { bindShorthand := ['#', '@'], eventShorthand := ['@', '#', '@'] }).Agree
        ['o', 'n'] (['@', '#', '@'] ++ "click.stop".toList) "v-on:click.stop".toList := by
  have hchecked : TemplateSettings.ofFields [("bind_shorthand".toList, .string ['#', '@']),
      ("event_shorthand".toList, .string ['@', '#', '@'])] =
        .ok { bindShorthand := ['#', '@'], eventShorthand := ['@', '#', '@'] } := by decide +kernel
  have hagree := (agree_iff_of_checked hchecked).2.2 ⟨⟨?_, ?_, ?_, ?_, ?_⟩, ?_, ?_⟩
  · exact ⟨hchecked, (hagree "click.stop".toList).2⟩
  all_goals decide

/-! ## A shorthand that begins the other -/

namespace Doubled

/-- Settings whose second shorthand is the first one twice. -/
def settings : TemplateSettings := { bindShorthand := ['#'], eventShorthand := ['#', '#'] }

/-- They pass their check. -/
theorem checked :
    TemplateSettings.ofFields [("bind_shorthand".toList, .string ['#']),
      ("event_shorthand".toList, .string ['#', '#'])] = .ok settings := by
  decide +kernel

end Doubled

/-- **The second shorthand is not matched as a whole** where the first begins it: its directive is
read as one of the first, with the rest of the shorthand in the argument. -/
theorem doubled_not_agree :
    TemplateSettings.ofFields [("bind_shorthand".toList, .string ['#']),
        ("event_shorthand".toList, .string ['#', '#'])] = .ok Doubled.settings ∧
      (ofSettings Doubled.settings).isDirective "##click".toList = true ∧
      (ofSettings Doubled.settings).isDirective "v-on:click".toList = true ∧
      (ofSettings Doubled.settings).decompose "##click".toList =
        ⟨['#'], some "#click".toList, [], true⟩ ∧
      ¬ (ofSettings Doubled.settings).Agree ['o', 'n'] "##click".toList
        "v-on:click".toList := by
  have hparts : (ofSettings Doubled.settings).decompose "##click".toList =
      ⟨['#'], some "#click".toList, [], true⟩ := by decide
  refine ⟨Doubled.checked, by decide, by decide, hparts, fun hagree => ?_⟩
  have hcanonical := hagree.canonical
  rw [hparts] at hcanonical
  exact absurd hcanonical (by decide)

end DirectiveRules

end SingleFile
