import SingleFile.Text.Case
import SingleFile.Path

/-!
# Settings

What a reader may choose: the delimiters of interpolations, how
attribute names spell directives, which tags keep their children in a
content fragment, which template languages are read, the grammar of
scripts, which files are components, and how much is logged.
-/

namespace SingleFile

/-- The notation of templates. -/
structure TemplateSettings where
  interpolationOpen : Text := ['{', '{']
  interpolationClose : Text := ['}', '}']
  directiveLead : Text := ['v', '-']
  bindShorthand : Text := [':']
  eventShorthand : Text := ['@']
  knownDirectives : List Text :=
    ["text", "html", "show", "if", "else", "else-if", "for", "on", "bind", "model", "pre", "cloak",
     "once"].map String.toList
  containerTags : List Text := [['t', 'e', 'm', 'p', 'l', 'a', 't', 'e']]
  languages : List Text := [['h', 't', 'm', 'l']]
  deriving DecidableEq, Repr

/-- The choice of a script grammar. -/
structure ScriptSettings where
  language : Text := "javascript".toList
  deriving DecidableEq, Repr

/-- All settings. -/
structure Settings where
  logLevel : Text := "WARNING".toList
  componentExtensions : List Text := [['.', 'v', 'u', 'e']]
  template : TemplateSettings := {}
  script : ScriptSettings := {}
  deriving DecidableEq, Repr

/-- Whether a path names a component file: its suffix in lower case is one
of the component extensions. -/
def Settings.isComponent (s : Settings) (path : Option Text) : Bool :=
  match path with
  | none => false
  | some p => s.componentExtensions.contains (Path.suffix (Path.fileName p)).lower

end SingleFile
