import SingleFile.Breach
import SingleFile.Grammar

/-!
# Failures

Whatever can end a reading early. A script that is rejected is one of
them; inside a template it is caught and recorded at the expression.
-/

namespace SingleFile

/-- Why a script is rejected, and where: an offset into the text handed to
its reader, and the position of that offset. -/
structure SyntaxError where
  message : String
  index : Nat
  position : Position
  deriving DecidableEq, Repr

/-- The message with the position. -/
def SyntaxError.text (e : SyntaxError) : String :=
  s!"{e.message} ({e.position.line}:{e.position.column})"

/-- Why a reading ends early. -/
inductive Failure
  /-- Tree and tokens do not fit together. -/
  | breach (b : Breach)
  /-- A character outside the text is asked for. -/
  | charOutside
  /-- A script is rejected. -/
  | syntaxError (e : SyntaxError)
  /-- The markup grammar cannot be used. -/
  | markupUnavailable (problem : Grammar.Problem)
  /-- The script grammar cannot be used. -/
  | scriptUnavailable (problem : Grammar.Problem)
  /-- No recorded tree is left for a language. -/
  | noTree (language : Text)
  deriving DecidableEq, Repr

namespace Failure

/-- The message of a failure. -/
def message : Failure → String
  | breach b => b.message
  | charOutside => "string index out of range"
  | syntaxError e => e.message
  | markupUnavailable problem | scriptUnavailable problem => problem.message
  | noTree language => s!"no {language.toStr} tree left"

/-- A breach ends the reading. -/
def ofBreach (e : Except Breach α) : Except Failure α := e.mapError breach

end Failure

end SingleFile
