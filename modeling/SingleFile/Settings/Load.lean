import SingleFile.File
import SingleFile.Settings.Defaults
import SingleFile.Settings.Layers
import SingleFile.Settings.Read

/-!
# Loading settings

Settings are made of up to three layers: the packaged defaults, a file of
the user and overrides. A project file contributes one table of its own;
any other file is taken as a whole.
-/

namespace SingleFile

namespace Settings

/-- Why settings cannot be loaded. -/
inductive LoadError
  /-- The file cannot be read. -/
  | unreadable (path : Text) (reason : String)
  /-- The content of the file is not UTF-8. -/
  | undecodable (path : Text)
  /-- The file is not TOML. -/
  | notToml (path : Text)
  /-- The table of a project file is something else. -/
  | notTable (path : Text)
  /-- Some settings do not have their form. -/
  | invalid (faults : List Fault)
  deriving DecidableEq, Repr

/-- The keys that lead to the table of a project file. -/
def projectKeys : List Text := ["tool".toList, "sfcparse".toList]

/-- The name of project files. -/
def projectName : Text := "pyproject.toml".toList

namespace LoadError

/-- The message of an error. -/
def message : LoadError → String
  | unreadable path reason => s!"Failed to read config file {path.toStr}: {reason}"
  | undecodable path => s!"Failed to decode config file {path.toStr}: it is not UTF-8"
  | notToml path => s!"Invalid TOML in {path.toStr}: the text does not follow the format"
  | notTable path =>
    let keys := Text.toStr (Text.joinWith ['.'] projectKeys)
    s!"[{keys}] in {path.toStr} is not a table"
  | invalid faults =>
    let causes := "; ".intercalate (faults.map fun f => f.cause.message)
    s!"Invalid sfcparse configuration: {causes}"

end LoadError

/-- What stands at the end of a path of keys, an empty table where a key is
missing; nothing where a value on the way is no table. -/
def follow (v : Value) : List Text → Option Value
  | [] => some v
  | key :: keys =>
    match v with
    | .table fields => follow ((Value.get? fields key).getD (.table [])) keys
    | _ => none

/-- The fields that a file contributes. -/
def fileFields (path : Text) (found : Stored) : Except LoadError (List (Text × Value)) :=
  let path := Path.normal path
  match found.text with
  | .error (.unreadable reason) => .error (.unreadable path reason)
  | .error .undecodable => .error (.undecodable path)
  | .ok text =>
    match Toml.read? text with
    | none => .error (.notToml path)
    | some fields =>
      if Path.fileName path = projectName then
        match follow (.table fields) projectKeys with
        | none => .ok []
        | some (.table own) => .ok own
        | some _ => .error (.notTable path)
      else .ok fields

/-- The settings of the packaged defaults, a file, if any, and overrides, if
any, each laid over the ones before. -/
def load (file : Option (Text × Stored)) (overrides : Option (List (Text × Value))) :
    Except LoadError Settings := do
  let layer ← match file with
    | none => pure []
    | some (path, found) => fileFields path found
  let fields := Value.merge (Value.merge defaultsFields layer) (overrides.getD [])
  (Settings.ofFields fields).mapError .invalid

end Settings

end SingleFile
