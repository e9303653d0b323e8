import SingleFile.Grammar

/-!
# Recorded grammars

Trees recorded beforehand stand in for grammars. One markup tree answers
every markup text; script trees answer script texts one after the other,
in whatever script language they are asked for.
-/

namespace SingleFile

namespace Grammar

/-- A text handed to the grammar of a language. -/
structure Request where
  language : Text
  text : Text
  deriving DecidableEq, Repr

/-- The languages whose grammars can be loaded, if any grammars are
installed, and the trees they return. -/
structure Recorded where
  languages : Option (List Text)
  markup : Option Cst
  scripts : List Cst
  deriving Repr

namespace Recorded

/-- Whether the grammar of a language can be loaded. -/
def load (r : Recorded) (language : Text) : Except Problem Unit :=
  match r.languages with
  | none => .error .notInstalled
  | some known =>
    if known.contains language then .ok ()
    else .error (.notLoaded language ("no grammar named ".toList ++ language))

/-- The recorded trees as grammars. -/
def grammars (r : Recorded) : Grammars := fun language asked _ =>
  match r.load language with
  | .error problem => .error (.unavailable problem)
  | .ok () =>
    match if language = markupLanguage then r.markup else r.scripts[asked]? with
    | some tree => .ok tree
    | none => .error (.noTree language)

/-- The texts of the requests that reach a grammar of a language other than
markup. -/
def received (r : Recorded) (requests : List Request) : List Text :=
  (requests.filter fun q => q.language ≠ markupLanguage ∧ (r.load q.language).isOk).map (·.text)

end Recorded

end Grammar

end SingleFile
