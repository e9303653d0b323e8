import SingleFile.Text.Quoted

/-!
# Grammars and the trees they return

Markup and scripts are read by grammars from outside. A grammar is given
a text and returns a concrete tree, `Cst`, whose spans count the bytes of
the text's UTF-8 encoding. Flags and spans are taken as they come: a tree
need not be consistent.

`Grammars` gives access to the grammars by the name of their language. It
is told how many script texts were handed over before, so that trees
recorded in order can stand in for a grammar.
-/

namespace SingleFile

/-- A node of a concrete tree. -/
structure Cst where
  kind : String
  startByte : Int
  stopByte : Int
  isNamed : Bool
  isMissing : Bool
  hasError : Bool
  children : List Cst
  deriving Repr, Inhabited

namespace Cst

/-- The children that are named in the grammar. -/
def namedChildren (node : Cst) : List Cst := node.children.filter (·.isNamed)

/-- The first child of one of the given kinds. -/
def firstChild? (node : Cst) (kinds : List String) : Option Cst :=
  node.children.find? fun child => kinds.contains child.kind

end Cst

namespace Grammar

/-- Why no grammar can be used. -/
inductive Problem
  /-- No grammars are installed. -/
  | notInstalled
  /-- The grammar of a language cannot be loaded. -/
  | notLoaded (language reason : Text)
  deriving DecidableEq, Repr

/-- The message of a problem. -/
def Problem.message : Problem → String
  | notInstalled => "sfcparse requires the 'parser' extras (tree_sitter_languages)."
  | notLoaded language reason =>
    s!"tree-sitter parser for {quoted language} is unavailable: {reason.toStr}"

/-- Why a grammar returns no tree. -/
inductive Failure
  /-- The grammar cannot be used. -/
  | unavailable (problem : Problem)
  /-- No recorded tree is left for the language. -/
  | noTree (language : Text)
  deriving DecidableEq, Repr

end Grammar

/-- The grammars by language: given the number of script texts handed over
before and a text, a tree or the reason that there is none. -/
def Grammars := (language : Text) → (asked : Nat) → (text : Text) → Except Grammar.Failure Cst

/-- The language of markup. -/
def markupLanguage : Text := "html".toList

namespace Grammars

/-- No grammars at all. -/
def absent : Grammars := fun _ _ _ => .error (.unavailable .notInstalled)

end Grammars

end SingleFile
