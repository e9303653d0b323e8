import SingleFile.CommandLine.Arguments
import SingleFile.Log
import SingleFile.Render
import SingleFile.Settings.Load
import SingleFile.Text.Plain
import SingleFile.Value.Json

/-!
# The command line

Two commands inspect a file: `tokens` lists its tokens in source order,
`tree` prints its transformed template. Options before the command name a
settings file and a log level. Files are asked for through a function, so
the same definition runs on a disk and on files held in memory.
-/

namespace SingleFile

namespace CommandLine

/-- What to do with a file. -/
inductive Command
  /-- List the tokens. -/
  | tokens
  /-- Print the template. -/
  | tree
  deriving DecidableEq, Repr

/-- The command of a name. -/
def Command.ofName? (name : Text) : Option Command :=
  [("tokens".toList, tokens), ("tree".toList, tree)].lookup name

/-- How a run ends. -/
inductive Ending
  /-- The arguments cannot be used. -/
  | usage (problem : Usage)
  /-- The options are explained. -/
  | help
  /-- The run ends with an exit code after printing something. -/
  | printed (code : Nat) (output : String)
  /-- The settings file is not UTF-8. -/
  | undecodable
  /-- The reading ends early. -/
  | failed (failure : Failure)

/-- The end of a run and the requests to script grammars that it made. -/
structure Run where
  ending : Ending
  requests : List Grammar.Request

/-- The options before the command. -/
def outerForms : List OptionForm :=
  [⟨"--config".toList, some 'c', true⟩, ⟨"--log-level".toList, some 'l', true⟩,
   ⟨"--help".toList, none, false⟩]

/-- The options of a command. -/
def innerForms : List OptionForm :=
  [⟨"--json".toList, none, false⟩, ⟨"--help".toList, none, false⟩]

/-- The exit code of a run. -/
def Ending.code : Ending → Nat
  | usage _ => 2
  | help => 0
  | printed code _ => code
  | undecodable | failed _ => 1

/-- Lines as they are printed, each with its line end. -/
def lines (ls : List String) : String :=
  String.join (ls.map fun l => s!"{Text.toStr (Text.plain l.toList)}\n")

/-- A value as JSON text on lines of its own. -/
def jsonLines (v : Value) : String := lines [(v.json 0).toStr]

/-- What the command `tokens` prints. -/
def showTokens (asJson : Bool) (c : Component) : String :=
  if asJson then jsonLines (.array (c.tokens.map fun (region, t) => Render.token region t))
  else lines (c.tokens.map fun (region, t) => Render.tokenLine region t)

/-- The number of expressions of a template that were rejected. -/
def rejected (d : Template.Document) : Nat :=
  (Template.Item.walk (.document d)).countP fun i =>
    match i with
    | .container c => !c.outcome.isOk
    | _ => false

/-- What the command `tree` prints. -/
def showTree (asJson : Bool) (template : Option Template.Result) : String :=
  if asJson then
    let root := Value.ofOption (fun r => Render.document r.root) template
    let comments := (template.map fun r => r.comments.map Render.comment).getD []
    jsonLines (.record [("template", root), ("comments", .array comments)])
  else
    match template with
    | none => lines ["No template found."]
    | some r =>
      let n := rejected r.root
      lines (Render.documentLines r.root ++
        if n = 0 then [] else [s!"{n} expression(s) failed to parse."])

/-- What a command prints about a component. -/
def Command.show (command : Command) (asJson : Bool) (c : Component) : String :=
  match command with
  | tokens => showTokens asJson c
  | tree => showTree asJson c.template

/-- The end of a run that failed to read a file: failures that the file or
the installation accounts for are printed. -/
def failing (path : Text) : Failure → Ending
  | .syntaxError e => .printed 1 (lines [s!"{path.toStr}: {e.text}"])
  | .markupUnavailable p | .scriptUnavailable p => .printed 1 (lines [p.message])
  | f => .failed f

/-- A command run on what is found at a path. -/
def inspect (grammars : Grammars) (settings : Settings) (command : Command) (asJson : Bool)
    (path : Text) (found : Stored) : Run :=
  let path := Path.normal path
  match found.text with
  | .error (.unreadable reason) =>
    ⟨.printed 1 (lines [s!"Failed to read {path.toStr}: {reason}"]), []⟩
  | .error .undecodable =>
    ⟨.printed 1 (lines [s!"Failed to read {path.toStr}: it is not UTF-8"]), []⟩
  | .ok code =>
    let language := settings.script.language
    let reading := Component.read grammars (Script.parser grammars language) settings code
      (some path) none
    let requests := Script.requests language reading.asked
    match reading.result with
    | .ok c => ⟨.printed 0 (command.show asJson c), requests⟩
    | .error f => ⟨failing path f, requests⟩

/-- Whether a file can be handed to a command. -/
def usable : Stored → Bool
  | .file _ => true
  | _ => false

/-- A command with its arguments, under settings that are loaded. -/
def runCommand [Monad m] (grammars : Grammars) (look : Text → m Stored) (settings : Settings)
    (command : Command) (arguments : List Text) : m Run :=
  match Arguments.parse innerForms true none arguments with
  | .error problem => return ⟨.usage problem, []⟩
  | .ok parsed =>
    if parsed.has "--help".toList then return ⟨.help, []⟩
    else
      match parsed.positional with
      | [] => return ⟨.usage .argumentMissing, []⟩
      | path :: rest => do
        let found ← look path
        if !usable found then return ⟨.usage (.fileUnusable path), []⟩
        else
          match rest with
          | extra :: _ => return ⟨.usage (.argumentUnexpected extra), []⟩
          | [] =>
            return inspect grammars settings command (parsed.has "--json".toList) path found

/-- The log level in force: the option's, unless it is empty, or else the
settings'. -/
def logLevel (settings : Settings) (option : Option Text) : Except Usage Level :=
  let name := match option with
    | some (c :: rest) => c :: rest
    | _ => settings.logLevel
  match Log.level? name with
  | some level => .ok level
  | none => .error (.badLevel (Log.unknownLevel name))

/-- The end of a run whose settings cannot be loaded. -/
def misconfigured : Settings.LoadError → Ending
  | .undecodable _ => .undecodable
  | e => .printed 2 (lines [s!"Configuration error: {e.message}"])

/-- A run of the program on its arguments. The command is looked up first,
then the settings are loaded and the log level is found, and then the
command takes its arguments. -/
def run [Monad m] (grammars : Grammars) (look : Text → m Stored) (arguments : List Text) :
    m Run :=
  match Arguments.parse outerForms false none arguments with
  | .error problem => return ⟨.usage problem, []⟩
  | .ok parsed =>
    if parsed.has "--help".toList then return ⟨.help, []⟩
    else
      match parsed.positional with
      | [] => return ⟨.usage .commandMissing, []⟩
      | name :: rest =>
        match Command.ofName? name with
        | none => return ⟨.usage (.noSuchCommand name), []⟩
        | some command => do
          let file ← match parsed.value? "--config".toList with
            | none => pure none
            | some path => do
              let path := Path.normal path
              pure (some (path, ← look path))
          match Settings.load file none with
          | .error e => return ⟨misconfigured e, []⟩
          | .ok settings =>
            match logLevel settings (parsed.value? "--log-level".toList) with
            | .error problem => return ⟨.usage problem, []⟩
            | .ok _ => runCommand grammars look settings command rest

end CommandLine

end SingleFile
