import SingleFile.Proofs.Settings.Paths
import SingleFile.Toml

/-!
# The keys of a settings text

The fields that are read from a settings text have each key once, in the
outermost table and in every table below it (`Toml.read?_keyed`). All of them
come of `Value.put` and of the empty table, and `Toml.within` keeps at every
table on its way what the change at the end of the path keeps.
-/

namespace SingleFile

namespace Toml

open Value (Keyed)

/-! ## Changes of a table -/

/-- **A change that keeps each key once.** -/
def Keeps (change : Fields → Option Fields) : Prop :=
  ∀ fields after, Keyed (.table fields) → change fields = some after → Keyed (.table after)

/-- A change at the end of a path keeps each key once on the whole way. -/
theorem Keeps.within {change : Fields → Option Fields} (h : Keeps change) (lists : Bool)
    (path : KeyPath) : Keeps (within lists change path) := by
  induction path with
  | nil => exact h
  | cons key path ih =>
    intro fields after hfields hafter
    rw [Toml.within] at hafter
    split at hafter
    · obtain ⟨below, hbelow, rfl⟩ := Option.map_eq_some_iff.mp hafter
      exact hfields.put (ih _ _ Value.keyed_empty hbelow)
    · rename_i inner hkey
      obtain ⟨below, hbelow, rfl⟩ := Option.map_eq_some_iff.mp hafter
      exact hfields.put (ih _ _ (hfields.of_get? hkey) hbelow)
    · -- what stands in a list is behind no path of keys
      split at hafter
      · obtain ⟨below, -, rfl⟩ := Option.map_eq_some_iff.mp hafter
        exact hfields.put (Value.keyed_of_not_isTable rfl)
      · cases hafter
    · cases hafter

/-- Adding a field keeps each key once. -/
theorem keeps_addField {key : Text} {v : Value} (hv : Keyed v) : Keeps (addField key v) := by
  intro fields after hfields hafter
  rw [addField] at hafter
  split at hafter
  · cases hafter
    exact hfields.put hv
  · cases hafter

/-- Adding an item to a list keeps each key once. -/
theorem keeps_addItem (key : Text) : Keeps (addItem key) := by
  intro fields after hfields hafter
  rw [addItem] at hafter
  split at hafter
  · cases hafter
    exact hfields.put (Value.keyed_of_not_isTable rfl)
  · cases hafter
    exact hfields.put (Value.keyed_of_not_isTable rfl)
  · cases hafter

/-- Changing nothing keeps each key once. -/
theorem keeps_some : Keeps some := by
  rintro fields after hfields ⟨⟩
  exact hfields

/-! ## Values -/

/-- A decimal number is no table. -/
theorem isTable_of_decimal? {t rest : Text} {v : Value} (h : decimal? t = some (v, rest)) :
    v.isTable = false := by
  simp only [decimal?, Option.bind_eq_bind, Option.bind_eq_some_iff] at h
  obtain ⟨⟨n, after⟩, -, h⟩ := h
  split at h <;> cases h <;> rfl

/-- A truth value is no table. -/
theorem isTable_of_boolean? {t rest : Text} {v : Value} (h : boolean? t = some (v, rest)) :
    v.isTable = false := by
  rw [boolean?] at h
  split at h
  · cases h
    rfl
  · obtain ⟨after, -, h⟩ := Option.map_eq_some_iff.mp h
    cases h
    rfl

/-- A special decimal is no table. -/
theorem isTable_of_special? {t rest : Text} {v : Value} (h : special? t = some (v, rest)) :
    v.isTable = false := by
  obtain ⟨s, -, h⟩ := List.exists_of_findSome?_eq_some h
  obtain ⟨after, -, h⟩ := Option.map_eq_some_iff.mp h
  cases h
  rfl

/-- A date, a time or a number is no table. -/
theorem isTable_of_numeral? {t rest : Text} {v : Value} (h : numeral? t = some (v, rest)) :
    v.isTable = false := by
  rw [numeral?] at h
  split at h
  · split at h <;> cases h
    rfl
  split at h
  · cases h
    rfl
  split at h
  · cases h
    rfl
  rw [Option.orElse_eq_or, Option.or_eq_some_iff] at h
  rcases h with h | ⟨-, h⟩
  · exact isTable_of_decimal? h
  · exact isTable_of_special? h

/-- A scalar is no table. -/
theorem isTable_of_scalar? {t rest : Text} {v : Value} (h : scalar? t = some (v, rest)) :
    v.isTable = false := by
  rw [scalar?] at h
  split at h
  · cases h
    rfl
  rw [Option.orElse_eq_or, Option.or_eq_some_iff] at h
  rcases h with h | ⟨-, h⟩
  · exact isTable_of_boolean? h
  · exact isTable_of_numeral? h

/-- What is read as a value has each key once, and so has what is read between braces. -/
theorem keyed_value? (steps : Nat) :
    (∀ t v rest, value? steps t = some (v, rest) → Keyed v) ∧
      ∀ marks fields t after rest, Keyed (.table fields) →
        inline? steps marks fields t = some (after, rest) → Keyed (.table after) := by
  induction steps with
  | zero =>
    refine ⟨fun t v rest h => ?_, fun marks fields t after rest hfields h => ?_⟩
    · cases h
    · cases h
  | succ steps ih =>
    refine ⟨fun t v rest h => ?_, fun marks fields t after rest hfields h => ?_⟩
    · unfold value? at h
      split at h
      · cases h
      · simp only [Option.bind_eq_bind, Option.bind_eq_some_iff] at h
        obtain ⟨gap, -, h⟩ := h
        refine Value.keyed_of_not_isTable ?_
        split at h
        · cases h
          rfl
        · obtain ⟨⟨items, after⟩, -, h⟩ := Option.bind_eq_some_iff.mp h
          cases h
          rfl
      · rename_i hsteps
        cases hsteps
        split at h
        · cases h
          exact Value.keyed_empty
        · obtain ⟨⟨fields, after⟩, hfields, h⟩ := Option.map_eq_some_iff.mp h
          cases h
          exact ih.2 _ _ _ _ _ Value.keyed_empty hfields
      · exact Value.keyed_of_not_isTable (isTable_of_scalar? h)
    · rw [inline?] at h
      simp only [Option.bind_eq_bind, Option.bind_eq_some_iff] at h
      obtain ⟨⟨path, t₁⟩, -, t₂, -, ⟨v, t₃⟩, hv, h⟩ := h
      split at h
      · cases h
      simp only [Option.bind_eq_some_iff] at h
      obtain ⟨key, -, below, hbelow, h⟩ := h
      have hkeyed : Keyed (.table below) :=
        (keeps_addField (ih.1 _ _ _ hv)).within _ _ _ _ hfields hbelow
      split at h
      · cases h
        exact hkeyed
      · exact ih.2 _ _ _ _ _ hkeyed h
      · cases h

/-- The value of a pair has each key once. -/
theorem keyed_of_pair? {t rest : Text} {path : KeyPath} {v : Value}
    (h : pair? t = some (path, v, rest)) : Keyed v := by
  simp only [pair?, Option.bind_eq_bind, Option.bind_eq_some_iff] at h
  obtain ⟨⟨keys, t₁⟩, -, t₂, -, ⟨w, t₃⟩, hw, h⟩ := h
  cases h
  exact (keyed_value? _).1 _ _ _ hw

/-! ## Statements -/

namespace State

variable {s s' : State}

/-- Opening a table keeps each key once. -/
theorem keyed_openTable {path : KeyPath} (hs : Keyed (.table s.fields))
    (h : s.openTable path = some s') : Keyed (.table s'.fields) := by
  rw [openTable] at h
  split at h
  · cases h
  · simp only [Option.bind_eq_bind, Option.bind_eq_some_iff] at h
    obtain ⟨fields, hfields, h⟩ := h
    cases h
    exact keeps_some.within _ _ _ _ hs hfields

/-- Opening an item of a list keeps each key once. -/
theorem keyed_openItem {path : KeyPath} (hs : Keyed (.table s.fields))
    (h : s.openItem path = some s') : Keyed (.table s'.fields) := by
  rw [openItem] at h
  split at h
  · cases h
  · simp only [Option.bind_eq_bind, Option.bind_eq_some_iff] at h
    obtain ⟨key, -, fields, hfields, h⟩ := h
    cases h
    exact (keeps_addItem key).within _ _ _ _ hs hfields

/-- Adding a pair keeps each key once. -/
theorem keyed_addPair {path : KeyPath} {v : Value} (hs : Keyed (.table s.fields)) (hv : Keyed v)
    (h : s.addPair path v = some s') : Keyed (.table s'.fields) := by
  simp only [addPair, Option.bind_eq_bind] at h
  split at h
  · cases h
  split at h
  · cases h
  simp only [Option.bind_eq_some_iff] at h
  obtain ⟨key, -, fields, hfields, h⟩ := h
  cases h
  exact (keeps_addField hv).within _ _ _ _ hs hfields

/-- **One statement** keeps each key once. -/
theorem keyed_statement? {t rest : Text} (hs : Keyed (.table s.fields))
    (h : s.statement? t = some (s', rest)) : Keyed (.table s'.fields) := by
  unfold statement? at h
  split at h
  · cases h
    exact hs
  · cases h
    exact hs
  · cases h
    exact hs
  · simp only [Option.bind_eq_bind, Option.bind_eq_some_iff] at h
    obtain ⟨⟨path, t₁⟩, -, u, hu, t₂, -, t₃, -, h⟩ := h
    cases h
    exact keyed_openItem (s := s.settle) hs hu
  · simp only [Option.bind_eq_bind, Option.bind_eq_some_iff] at h
    obtain ⟨⟨path, t₁⟩, -, u, hu, t₂, -, h⟩ := h
    cases h
    exact keyed_openTable (s := s.settle) hs hu
  · simp only [Option.bind_eq_bind, Option.bind_eq_some_iff] at h
    obtain ⟨⟨path, v, t₁⟩, hpair, u, hu, h⟩ := h
    cases h
    exact keyed_addPair hs (keyed_of_pair? hpair) hu

/-- **All statements** keep each key once. -/
theorem keyed_statements? {steps : Nat} {t : Text} (hs : Keyed (.table s.fields))
    (h : statements? steps s t = some s') : Keyed (.table s'.fields) := by
  induction steps generalizing s t with
  | zero =>
    cases h
    exact hs
  | succ steps ih =>
    rw [statements?] at h
    simp only [Option.bind_eq_bind, Option.bind_eq_some_iff] at h
    obtain ⟨⟨u, t₁⟩, hu, t₂, -, h⟩ := h
    have hkeyed := keyed_statement? hs hu
    split at h
    · cases h
      exact hkeyed
    · exact ih hkeyed h
    · cases h

end State

/-- **A settings text** has each key once in every table. -/
theorem read?_keyed {t : Text} {fields : Fields} (h : read? t = some fields) :
    Keyed (.table fields) := by
  obtain ⟨s, hs, rfl⟩ := Option.map_eq_some_iff.mp h
  exact State.keyed_statements? Value.keyed_empty hs

end Toml

end SingleFile
