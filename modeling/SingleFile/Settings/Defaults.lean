import SingleFile.Path
import SingleFile.Toml

/-!
# Packaged defaults

The settings text that comes with the program, on which all other layers
are laid.
-/

namespace SingleFile

namespace Settings

/-- The name of the packaged file. -/
def defaultsName : Text := "sfcparse.defaults.toml".toList

/-- The lines of the packaged file. -/
def defaultsLines : List String :=
  ["# Packaged defaults for sfcparse. User configuration files and keyword",
   "# overrides are deep-merged on top of these values.",
   "",
   "log_level = \"WARNING\"",
   "component_extensions = [\".vue\"]",
   "",
   "[template]",
   "interpolation_open = \"\x7b\x7b\"",
   "interpolation_close = \"\x7d\x7d\"",
   "directive_prefix = \"v-\"",
   "bind_shorthand = \":\"",
   "event_shorthand = \"@\"",
   "known_directives = [",
   "    \"text\",",
   "    \"html\",",
   "    \"show\",",
   "    \"if\",",
   "    \"else\",",
   "    \"else-if\",",
   "    \"for\",",
   "    \"on\",",
   "    \"bind\",",
   "    \"model\",",
   "    \"pre\",",
   "    \"cloak\",",
   "    \"once\",",
   "]",
   "container_tags = [\"template\"]",
   "languages = [\"html\"]",
   "",
   "[script]",
   "language = \"javascript\""]

/-- The text of the packaged file. -/
def defaultsText : String := String.join (defaultsLines.map fun l => s!"{l}\n")

/-- The fields of the packaged file. -/
def defaultsFields : List (Text × Value) := (Toml.read? defaultsText.toList).getD []

/-- The name of the packaged file that a path leads to, if there is one. -/
def packaged? (path : Text) : Option Text :=
  if Path.normal path = defaultsName then some defaultsName else none

end Settings

end SingleFile
