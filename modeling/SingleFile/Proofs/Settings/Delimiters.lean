import SingleFile.Settings.Read

/-!
# Settings — the spellings that pass their check

A text that must not be empty is trimmed before it is measured, so the
delimiters, the lead and the shorthands of checked settings begin with a
character that is no white space.
-/

namespace SingleFile

/-- A trimmed text that is not empty begins with a character of another class. -/
theorem Text.head?_trimOf {p : Char → Bool} {t : Text} (h : 0 < (t.trimOf p).length) :
    ∃ d, (t.trimOf p).head? = some d ∧ p d = false := by
  have hprefix : t.trimOf p <+: t.dropWhile p := by
    rw [← List.reverse_suffix]
    unfold trimOf
    rw [List.reverse_reverse]
    exact List.dropWhile_suffix p
  obtain ⟨d, rest, hd⟩ := List.exists_cons_of_ne_nil (List.length_pos_iff.1 h)
  obtain ⟨more, hmore⟩ := hprefix
  rw [hd] at hmore ⊢
  refine ⟨d, rfl, ?_⟩
  have hhead := List.head?_dropWhile_not p t
  rw [← hmore] at hhead
  simpa using hhead

namespace Settings

/-- What is there when a function and its argument are both checked. -/
theorem Checked.apply_eq_ok_iff {α β : Type} {f : Checked (α → β)} {a : Checked α} {b : β} :
    Checked.apply f a = .ok b ↔ ∃ g x, f = .ok g ∧ a = .ok x ∧ b = g x := by
  cases f <;> cases a <;> simp [Checked.apply, eq_comm]

/-- A checked field is its default or what the check gives. -/
theorem checkField_eq_ok {α : Type} {fields : List (Text × Value)} {name : String}
    {check : Value → Checked α} {default a : α}
    (h : checkField fields name check default = .ok a) : a = default ∨ ∃ v, check v = .ok a := by
  unfold checkField at h
  split at h
  · rename_i v _
    cases hc : check v with
    | error faults =>
      rw [hc] at h
      cases h
    | ok x =>
      rw [hc] at h
      exact .inr ⟨v, hc.trans h⟩
  · exact .inl (Except.ok.inj h).symm

/-- **A checked text that must not be empty** begins with no white space. -/
theorem head?_of_checkText {v : Value} {t : Text} (h : checkText 1 v = .ok t) :
    ∃ d, t.head? = some d ∧ Text.isWhiteSpace d = false := by
  unfold checkText at h
  split at h
  · dsimp only at h
    split at h
    · cases h
    · cases h
      exact Text.head?_trimOf (by omega)
  · cases h

end Settings

namespace TemplateSettings

/-- **The spellings of checked settings**, delimiters and leads alike, begin with a character that is
no white space. -/
theorem head?_spellings {fields : List (Text × Value)} {s : TemplateSettings}
    (h : ofFields fields = .ok s) :
    ∀ t ∈ [s.interpolationOpen, s.interpolationClose, s.directiveLead, s.bindShorthand,
      s.eventShorthand], ∃ d, t.head? = some d ∧ Text.isWhiteSpace d = false := by
  have hfield : ∀ {name : String} {default t : Text},
      Settings.checkField fields name (Settings.checkText 1) default = .ok t →
        (∃ d, default.head? = some d ∧ Text.isWhiteSpace d = false) →
          ∃ d, t.head? = some d ∧ Text.isWhiteSpace d = false := by
    intro name default t ht hdefault
    rcases Settings.checkField_eq_ok ht with rfl | ⟨v, hv⟩
    · exact hdefault
    · exact Settings.head?_of_checkText hv
  unfold ofFields at h
  dsimp only at h
  split at h
  · cases h
  · rename_i s' hs
    split at h
    · cases h
    · cases h
      simp only [Settings.Checked.apply_eq_ok_iff] at hs
      obtain ⟨_, _, ⟨_, _, ⟨_, _, ⟨_, event, ⟨_, bind, ⟨_, lead, ⟨_, closing, ⟨_, opening, hmk,
        hopening, rfl⟩, hclosing, rfl⟩, hlead, rfl⟩, hbind, rfl⟩, hevent, rfl⟩, _, rfl⟩, _, rfl⟩, _,
        rfl⟩ := hs
      cases hmk
      simp only [List.forall_mem_cons, List.not_mem_nil, false_imp_iff, implies_true, and_true]
      exact ⟨hfield hopening ⟨'{', rfl, by decide⟩, hfield hclosing ⟨'}', rfl, by decide⟩,
        hfield hlead ⟨'v', rfl, by decide⟩, hfield hbind ⟨':', rfl, by decide⟩,
        hfield hevent ⟨'@', rfl, by decide⟩⟩

/-- **The opening delimiter of checked settings** begins with no white space. -/
theorem head?_interpolationOpen {fields : List (Text × Value)} {s : TemplateSettings}
    (h : ofFields fields = .ok s) :
    ∃ d, s.interpolationOpen.head? = some d ∧ Text.isWhiteSpace d = false :=
  head?_spellings h _ (by simp)

/-- **So does the closing one.** -/
theorem head?_interpolationClose {fields : List (Text × Value)} {s : TemplateSettings}
    (h : ofFields fields = .ok s) :
    ∃ d, s.interpolationClose.head? = some d ∧ Text.isWhiteSpace d = false :=
  head?_spellings h _ (by simp)

/-- **The lead of checked settings** is not empty. -/
theorem directiveLead_ne_nil {fields : List (Text × Value)} {s : TemplateSettings}
    (h : ofFields fields = .ok s) : s.directiveLead ≠ [] := by
  obtain ⟨d, hd, -⟩ := head?_spellings h s.directiveLead (by simp)
  rintro hnil
  rw [hnil] at hd
  cases hd

end TemplateSettings

/-- **The template settings of checked settings** are checked themselves. -/
theorem Settings.exists_template_fields {fields : List (Text × Value)} {s : Settings}
    (h : ofFields fields = .ok s) :
    ∃ templateFields, TemplateSettings.ofFields templateFields = .ok s.template := by
  unfold ofFields at h
  dsimp only at h
  simp only [Checked.apply_eq_ok_iff] at h
  obtain ⟨_, _, ⟨_, template, ⟨_, _, ⟨_, _, hmk, _, rfl⟩, _, rfl⟩, htemplate, rfl⟩, _, rfl⟩ := h
  cases hmk
  rcases checkField_eq_ok htemplate with rfl | ⟨v, hv⟩
  · exact ⟨[], rfl⟩
  · unfold checkTable at hv
    split at hv
    · exact ⟨_, hv⟩
    · cases hv

end SingleFile
