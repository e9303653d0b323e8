import SingleFile.Template.Emission

/-!
# Emissions in sequence

How effects add up when one emission follows another: an emission that
ends well hands its value on and its effects come first, one that fails
is not gone on with. A sequence therefore ends well exactly when both of
its parts do (`result_bind_eq_ok_iff`), and emissions make a lawful monad.
-/

namespace SingleFile

namespace Failure

/-- A result that is there is no breach. -/
@[simp] theorem ofBreach_ok {α : Type} (a : α) : ofBreach (.ok a) = .ok a := rfl

/-- A breach is a failure. -/
@[simp] theorem ofBreach_error {α : Type} (b : Breach) :
    (ofBreach (.error b) : Except Failure α) = .error (.breach b) := rfl

/-- A result is there when it was there before. -/
theorem ofBreach_eq_ok_iff {α : Type} {r : Except Breach α} {a : α} :
    ofBreach r = .ok a ↔ r = .ok a := by
  cases r <;> simp

/-- A breach is no rejection. -/
theorem ofBreach_ne_syntaxError {α : Type} (r : Except Breach α) (e : SyntaxError) :
    ofBreach r ≠ .error (.syntaxError e) := by
  cases r <;> simp

end Failure

namespace Template

namespace Emission

variable {α β : Type}

/-! ## Laws of sequence -/

/-- After a reading that ends well, its effects come before those of the next. -/
theorem bind_apply_ok {m : Emission α} {n : Nat} {es : List Effect} {v : α}
    (h : m n = ⟨es, .ok v⟩) (f : α → Emission β) :
    (m >>= f) n = ⟨es ++ (f v (n + Effect.asks es)).effects, (f v (n + Effect.asks es)).result⟩ := by
  change Emission.bind m f n = _
  simp only [Emission.bind, h]

/-- A reading that fails is not gone on with. -/
theorem bind_apply_error {m : Emission α} {n : Nat} {es : List Effect} {e : Failure}
    (h : m n = ⟨es, .error e⟩) (f : α → Emission β) : (m >>= f) n = ⟨es, .error e⟩ := by
  change Emission.bind m f n = _
  simp only [Emission.bind, h]

/-- The same, told from how the first reading ends. -/
theorem bind_of_ok {m : Emission α} {f : α → Emission β} {n : Nat} {v : α}
    (h : (m n).result = .ok v) :
    (m >>= f) n =
      ⟨(m n).effects ++ (f v (n + Effect.asks (m n).effects)).effects,
        (f v (n + Effect.asks (m n).effects)).result⟩ :=
  bind_apply_ok (by rw [← h]) f

/-- And for one that fails. -/
theorem bind_of_error {m : Emission α} {f : α → Emission β} {n : Nat} {e : Failure}
    (h : (m n).result = .error e) : (m >>= f) n = ⟨(m n).effects, .error e⟩ :=
  bind_apply_error (by rw [← h]) f

/-- A sequence ends well when both of its parts do. -/
theorem result_bind_eq_ok_iff {m : Emission α} {f : α → Emission β} {n : Nat} {w : β} :
    ((m >>= f) n).result = .ok w ↔
      ∃ v, (m n).result = .ok v ∧ (f v (n + Effect.asks (m n).effects)).result = .ok w := by
  cases h : (m n).result with
  | error e => simp [bind_of_error h]
  | ok v => simp [bind_of_ok h]

/-- And then it emits what they emit. -/
theorem bind_eq_ok_iff {m : Emission α} {f : α → Emission β} {n : Nat} {xs : List Effect} {w : β} :
    (m >>= f) n = ⟨xs, .ok w⟩ ↔ ∃ ys v, m n = ⟨ys, .ok v⟩ ∧
      ∃ zs, f v (n + Effect.asks ys) = ⟨zs, .ok w⟩ ∧ xs = ys ++ zs := by
  constructor
  · intro h
    rcases hm : m n with ⟨ys, e | v⟩
    · rw [bind_apply_error hm] at h
      cases h
    · rw [bind_apply_ok hm] at h
      obtain ⟨hxs, hw⟩ := Emitted.mk.inj h
      refine ⟨ys, v, rfl, _, ?_, hxs.symm⟩
      rw [← hw]
  · rintro ⟨ys, v, hm, zs, hf, rfl⟩
    rw [bind_apply_ok hm, hf]

instance : LawfulMonad Emission := by
  -- how each part ends decides whether the next is reached at all, so the laws split on it
  refine LawfulMonad.mk' Emission ?_ ?_ ?_
  · intro α m
    funext n
    change (m >>= fun a => Pure.pure a) n = m n
    cases h : (m n).result with
    | error e => rw [bind_of_error h, ← h]
    | ok v =>
      rw [bind_of_ok h]
      change (⟨(m n).effects ++ [], .ok v⟩ : Emitted α) = m n
      rw [List.append_nil, ← h]
  · intro α β a f
    funext n
    rfl
  · intro α β γ m f g
    funext n
    cases h : (m n).result with
    | error e =>
      rw [bind_of_error h, bind_of_error (e := e) (by rw [bind_of_error h]), bind_of_error h]
    | ok v =>
      rw [bind_of_ok h]
      cases h' : (f v (n + Effect.asks (m n).effects)).result with
      | error e =>
        rw [bind_of_error h', bind_of_error (e := e) (by rw [bind_of_ok h, h']), bind_of_ok h]
      | ok w =>
        rw [bind_of_ok h', bind_of_ok (v := w) (by rw [bind_of_ok h, h']), bind_of_ok h]
        simp only [Effect.asks_append, List.append_assoc, Nat.add_assoc]

/-! ## What emits nothing, and what is handed over -/

/-- A reading that emits nothing and ends well is the value it ends with. -/
@[simp] theorem ofExcept_ok (a : α) : (ofExcept (.ok a) : Emission α) = Pure.pure a := rfl

/-- The same for what can only breach. -/
@[simp] theorem ofBreach_ok (a : α) : (ofBreach (.ok a) : Emission α) = Pure.pure a := rfl

/-- A reading whose value is passed through a function. -/
theorem bind_pure_apply (m : Emission α) (g : α → β) (n : Nat) :
    (m >>= fun v => Pure.pure (g v)) n = ⟨(m n).effects, (m n).result.map g⟩ := by
  cases h : (m n).result with
  | error e =>
    rw [bind_of_error h]
    rfl
  | ok v =>
    rw [bind_of_ok h]
    exact congrArg (Emitted.mk · _) (List.append_nil _)

/-- A text handed over to a reader that accepts it. -/
theorem ask_of_ok {parser : ScriptParser} {n : Nat} {text : Text} {program : Program}
    (h : parser n text = .ok program) : ask parser text n = ⟨[.asked text], .ok (.ok program)⟩ := by
  simp only [ask, h]

/-- A text handed over to a reader that rejects it. -/
theorem ask_of_syntaxError {parser : ScriptParser} {n : Nat} {text : Text} {e : SyntaxError}
    (h : parser n text = .error (.syntaxError e)) :
    ask parser text n = ⟨[.asked text], .ok (.error e)⟩ := by
  simp only [ask, h]

/-- A text handed over to a reader that fails on it. -/
theorem ask_of_error {parser : ScriptParser} {n : Nat} {text : Text} {f : Failure}
    (h : parser n text = .error f) (hf : ∀ e, f ≠ .syntaxError e) :
    ask parser text n = ⟨[.asked text], .error f⟩ := by
  cases f with
  | syntaxError e => exact absurd rfl (hf e)
  | _ => simp only [ask, h]

end Emission

end Template

end SingleFile
