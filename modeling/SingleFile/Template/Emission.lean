import SingleFile.Log.Event
import SingleFile.Template.Node
import SingleFile.Token.Store

/-!
# Emissions and the ledger

A reading of a template emits effects as it goes: tokens, comments, texts
handed to the script reader, and events. An `Emission` lists its effects
and says how it ends; it reads nothing back of what it emitted, except
how many texts were handed over. The effects are entered one by one into
a `Ledger`, which refuses a token out of order and then ends the reading
there.
-/

namespace SingleFile

namespace Template

/-- What a reading emits. -/
inductive Effect
  | token (t : Token)
  | comment (c : Comment)
  | asked (text : Text)
  | event (e : Event)
  deriving Repr

/-- The number of texts handed over among some effects. -/
def Effect.asks : List Effect → Nat
  | [] => 0
  | .asked _ :: effects => asks effects + 1
  | _ :: effects => asks effects

/-- Effects, and how the reading that emitted them ended. -/
structure Emitted (α : Type) where
  effects : List Effect
  result : Except Failure α
  deriving Repr

/-- A reading that emits effects; it is told how many texts were handed over
before it began. -/
def Emission (α : Type) := (asked : Nat) → Emitted α

namespace Emission

/-- A reading that emits nothing and ends well. -/
def pure (a : α) : Emission α := fun _ => ⟨[], .ok a⟩

/-- A reading that goes on with another one unless it fails. -/
def bind (m : Emission α) (f : α → Emission β) : Emission β := fun asked =>
  match m asked with
  | ⟨effects, .error e⟩ => ⟨effects, .error e⟩
  | ⟨effects, .ok a⟩ =>
    let next := f a (asked + Effect.asks effects)
    ⟨effects ++ next.effects, next.result⟩

instance : Monad Emission where
  pure := Emission.pure
  bind := Emission.bind

/-- A reading that emits one effect. -/
def emit (e : Effect) : Emission Unit := fun _ => ⟨[e], .ok ()⟩

/-- A reading that emits nothing and ends as given. -/
def ofExcept (r : Except Failure α) : Emission α := fun _ => ⟨[], r⟩

/-- A reading that emits nothing and ends as given. -/
def ofBreach (r : Except Breach α) : Emission α := ofExcept (Failure.ofBreach r)

/-- A reading that emits several effects. -/
def emitAll (es : List Effect) : Emission Unit := fun _ => ⟨es, .ok ()⟩

/-- A script text handed over. A rejection is an answer; any other failure
ends the reading. -/
def ask (parser : ScriptParser) (text : Text) : Emission (Except SyntaxError Program) :=
  fun asked =>
    match parser asked text with
    | .ok program => ⟨[.asked text], .ok (.ok program)⟩
    | .error (.syntaxError e) => ⟨[.asked text], .ok (.error e)⟩
    | .error e => ⟨[.asked text], .error e⟩

end Emission

/-- Handing over adds up over effects in sequence. -/
theorem Effect.asks_append (es fs : List Effect) : asks (es ++ fs) = asks es + asks fs := by
  induction es with
  | nil => simp [asks]
  | cons e es ih =>
    cases e with
    | asked text =>
      simp only [List.cons_append, asks, ih]
      omega
    | token t => exact ih
    | comment c => exact ih
    | event v => exact ih

/-! ## The ledger -/

/-- What has been emitted so far. -/
structure Ledger where
  store : TokenStore := .empty
  comments : List Comment := []
  asked : List Text := []
  events : List Event := []

namespace Ledger

/-- The ledger with one more effect. -/
def enter (l : Ledger) : Effect → Except Breach Ledger
  | .token t => return { l with store := ← l.store.push t }
  | .comment c => .ok { l with comments := l.comments ++ [c] }
  | .asked text => .ok { l with asked := l.asked ++ [text] }
  | .event e => .ok { l with events := l.events ++ [e] }

/-- The ledger with effects entered one by one, up to the first that is refused. -/
def enterAll (l : Ledger) : List Effect → Ledger × Option Breach
  | [] => (l, none)
  | e :: es =>
    match l.enter e with
    | .ok l' => l'.enterAll es
    | .error b => (l, some b)

/-- The ledger after a reading, and how the reading ended: a refused effect
ends it before anything later. -/
def run (l : Ledger) (m : Emission α) : Ledger × Except Failure α :=
  let emitted := m l.asked.length
  match l.enterAll emitted.effects with
  | (l', none) => (l', emitted.result)
  | (l', some b) => (l', .error (.breach b))

end Ledger

end Template

end SingleFile
