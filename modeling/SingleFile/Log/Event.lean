import SingleFile.Failure
import SingleFile.Value

/-!
# Events

What a reading reports as it goes: each event has a name, a level and
fields. Events about a template name the component that reports them;
events about a whole file name the file.
-/

namespace SingleFile

/-- How important an event is. -/
inductive Level
  | notset
  | debug
  | info
  | warning
  | error
  | critical
  deriving DecidableEq, Repr

namespace Level

/-- The number of a level. -/
def number : Level → Nat
  | notset => 0
  | debug => 10
  | info => 20
  | warning => 30
  | error => 40
  | critical => 50

/-- The name of a level in records. -/
def name : Level → String
  | notset => "notset"
  | debug => "debug"
  | info => "info"
  | warning => "warning"
  | error => "error"
  | critical => "critical"

end Level

/-- Something worth reporting. -/
inductive Event
  /-- The markup grammar recovered from an error. -/
  | markupRecovered (rootKind : String) (size : Nat)
  /-- A template entry becomes no node. -/
  | entrySkipped (reporter : String) (name : Text) (start : Int)
  /-- The script reader rejects an expression. -/
  | expressionRejected (reporter : String) (start stop : Int) (error : SyntaxError)
  /-- A template is transformed. -/
  | templateTransformed (reporter : String) (tokens comments children : Nat)
  /-- A file is no component and is read as a script. -/
  | plainScript (size : Nat) (file : Option Text)
  /-- A component is read. -/
  | componentParsed (scriptTokens templateTokens styles : Nat) (file : Option Text)
  /-- A template is written in a language that is not transformed. -/
  | languageUnsupported (language : Text)
  deriving DecidableEq, Repr

namespace Event

/-- The name of an event. -/
def name : Event → String
  | markupRecovered .. => "markup-recovered"
  | entrySkipped .. => "markup-node-skipped"
  | expressionRejected .. => "expression-syntax-error"
  | templateTransformed .. => "template-transformed"
  | plainScript .. => "plain-script"
  | componentParsed .. => "component-parsed"
  | languageUnsupported .. => "template-language-unsupported"

/-- The level of an event. -/
def level : Event → Level
  | componentParsed .. => .info
  | _ => .debug

/-- The fields of an event. -/
def fields : Event → List (String × Value)
  | markupRecovered rootKind size =>
    [("root_type", .ofString rootKind), ("length", .ofNat size)]
  | entrySkipped reporter name start =>
    [("component", .ofString reporter), ("node_name", .string name), ("start", .integer start)]
  | expressionRejected reporter start stop error =>
    [("component", .ofString reporter), ("start", .integer start), ("end", .integer stop),
     ("error", .ofString error.message), ("line", .integer error.position.line),
     ("column", .integer error.position.column)]
  | templateTransformed reporter tokens comments children =>
    [("component", .ofString reporter), ("tokens", .ofNat tokens), ("comments", .ofNat comments),
     ("children", .ofNat children)]
  | plainScript size file =>
    [("file_path", .ofOption .string file), ("length", .ofNat size)]
  | componentParsed scriptTokens templateTokens styles file =>
    [("file_path", .ofOption .string file), ("script_tokens", .ofNat scriptTokens),
     ("template_tokens", .ofNat templateTokens), ("styles", .ofNat styles)]
  | languageUnsupported language => [("lang", .string language)]

end Event

end SingleFile
