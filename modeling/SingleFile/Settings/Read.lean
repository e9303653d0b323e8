import SingleFile.Settings
import SingleFile.Settings.Fault

/-!
# Settings from values, and values from settings

Names of directives, tags and languages are kept in lower case, each
once; component extensions are kept in lower case with a dot in front.
Fields that are no settings are ignored.
-/

namespace SingleFile

/-- The texts without blanks at their ends, in lower case, each once and none
empty. -/
def normalNames (names : List Text) : List Text :=
  ((names.map Text.trim).filter (· ≠ [])).map Text.lower |>.eraseDups

/-- The extensions without blanks at their ends, in lower case and with a
dot in front, none empty. -/
def normalExtensions (extensions : List Text) : List Text :=
  ((extensions.map fun e => (Text.trim e).lower).filter (· ≠ [])).map fun e =>
    if e.head? = some '.' then e else '.' :: e

namespace TemplateSettings

open Settings in
/-- Template settings from the fields of a table. The shorthands must
differ, which is looked at only when no field is at fault. -/
def ofFields (fields : List (Text × Value)) : Checked TemplateSettings :=
  let default : TemplateSettings := {}
  let text (name : String) := checkField fields name (checkText 1)
  let names (name : String) :=
    checkField fields name fun v => (checkTexts v).map normalNames
  let settings := Checked.apply (Checked.apply (Checked.apply (Checked.apply (Checked.apply
    (Checked.apply (Checked.apply (Checked.apply (.ok TemplateSettings.mk)
      (text "interpolation_open" default.interpolationOpen))
      (text "interpolation_close" default.interpolationClose))
      (text "directive_prefix" default.directiveLead))
      (text "bind_shorthand" default.bindShorthand))
      (text "event_shorthand" default.eventShorthand))
      (names "known_directives" default.knownDirectives))
      (names "container_tags" default.containerTags))
      (names "languages" default.languages)
  match settings with
  | .error faults => .error faults
  | .ok s => if s.bindShorthand = s.eventShorthand then .fault .sameShorthands else .ok s

/-- Template settings as a value. -/
def value (s : TemplateSettings) : Value :=
  let texts (ts : List Text) : Value := .array (ts.map .string)
  .record [("interpolation_open", .string s.interpolationOpen),
    ("interpolation_close", .string s.interpolationClose),
    ("directive_prefix", .string s.directiveLead),
    ("bind_shorthand", .string s.bindShorthand),
    ("event_shorthand", .string s.eventShorthand),
    ("known_directives", texts s.knownDirectives),
    ("container_tags", texts s.containerTags),
    ("languages", texts s.languages)]

end TemplateSettings

namespace ScriptSettings

open Settings in
/-- Script settings from the fields of a table. -/
def ofFields (fields : List (Text × Value)) : Checked ScriptSettings :=
  (checkField fields "language" (checkText 0) ({} : ScriptSettings).language).map .mk

/-- Script settings as a value. -/
def value (s : ScriptSettings) : Value := .record [("language", .string s.language)]

end ScriptSettings

namespace Settings

/-- Settings from the fields of a table. -/
def ofFields (fields : List (Text × Value)) : Checked Settings :=
  let default : Settings := {}
  Checked.apply (Checked.apply (Checked.apply (Checked.apply (.ok Settings.mk)
    (checkField fields "log_level" (fun v => (checkText 0 v).map Text.upper) default.logLevel))
    (checkField fields "component_extensions" (fun v => (checkTexts v).map normalExtensions)
      default.componentExtensions))
    (checkField fields "template" (checkTable "TemplateSettings" TemplateSettings.ofFields)
      default.template))
    (checkField fields "script" (checkTable "ScriptSettings" ScriptSettings.ofFields)
      default.script)

/-- Settings as a value. -/
def value (s : Settings) : Value :=
  .record [("log_level", .string s.logLevel),
    ("component_extensions", .array (s.componentExtensions.map .string)),
    ("template", s.template.value), ("script", s.script.value)]

end Settings

end SingleFile
