import SingleFile.Markup.Tree
import SingleFile.Script.Block
import SingleFile.Script.Tree
import SingleFile.Template

/-!
# Components

A component is a file with a script block, a template and styles. Of the
elements at the top of its markup the first `script`, the first
`template` and every `style` count. A file with another suffix is read as
a script alone.
-/

namespace SingleFile

/-- A reading from its start to its end: the texts handed to the script
reader, the events, and how it ended. -/
structure Reading (α : Type) where
  asked : List Text
  events : List Event
  result : Except Failure α

/-- The blocks of a component. -/
structure Regions where
  script : Option Markup.Element
  template : Option Markup.Element
  styles : List Markup.Element
  deriving Repr

namespace Regions

/-- The blocks among the entries of a document. -/
def ofDocument (d : Markup.Document) : Regions :=
  let elements := d.children.filterMap Markup.Entry.element?
  let named (name : String) (e : Markup.Element) : Bool := e.name == name.toList
  ⟨elements.find? (named "script"), elements.find? (named "template"),
    elements.filter (named "style")⟩

end Regions

/-- A component that was read. -/
structure Component where
  script : Program
  template : Option Template.Result
  styles : List Markup.Element

/-- The block of a component that a token belongs to. -/
inductive Region
  | script
  | template
  deriving DecidableEq, Repr

/-- The name of a block in listings. -/
def Region.name : Region → String
  | script => "script"
  | template => "template"

namespace Markup

/-- The markup document of a source text, through the markup grammar. -/
def Document.build (grammars : Grammars) (text : Text) (containerTags : List Text) :
    Reading Document :=
  match grammars markupLanguage 0 text with
  | .error (.unavailable problem) => ⟨[], [], .error (.markupUnavailable problem)⟩
  | .error (.noTree language) => ⟨[], [], .error (.noTree language)⟩
  | .ok root =>
    ⟨[], if root.hasError then [.markupRecovered root.kind text.length] else [],
      .ok (.ofTree text containerTags root)⟩

end Markup

namespace Component

/-- The tokens of all blocks by their start, then by their end. -/
def tokens (c : Component) : List (Region × Token) :=
  let script := c.script.tokens.map fun t => (Region.script, t)
  let template := match c.template with
    | none => []
    | some r => r.store.tokens.map fun t => (Region.template, t)
  (script ++ template).mergeSort fun a b =>
    a.2.range.start < b.2.range.start ||
      (a.2.range.start == b.2.range.start && a.2.range.stop ≤ b.2.range.stop)

/-- The language that a template is written in. -/
def templateLanguage (template : Markup.Element) : Text :=
  match template.attribute? "lang".toList with
  | some a => if a.value = [] then markupLanguage else a.value
  | none => markupLanguage

/-- The template of a component, unless it is written in a language that is
not transformed. -/
def readTemplate (code : Text) (template : Option Markup.Element) (parser : ScriptParser)
    (settings : TemplateSettings) (asked : List Text) : Reading (Option Template.Result) :=
  match template with
  | none => ⟨asked, [], .ok none⟩
  | some element =>
    let language := templateLanguage element
    if settings.languages.contains language.lower then
      let (t, result) :=
        (Template.Transformer.start
          (.ofSettings code parser settings Template.transformerName) asked).transform
          [element.entry]
      ⟨t.ledger.asked, t.ledger.events, result.map some⟩
    else ⟨asked, [.languageUnsupported language], .ok none⟩

/-- The blocks of a component read one after the other. -/
def readRegions (code : Text) (file : Option Text) (settings : Settings) (parser : ScriptParser)
    (document : Markup.Document) : Reading Component :=
  let regions := Regions.ofDocument document
  let asked := [Script.padded code regions.script]
  match Script.block code regions.script parser 0 with
  | .error e => ⟨asked, [], .error e⟩
  | .ok script =>
    match readTemplate code regions.template parser settings.template asked with
    | ⟨asked, events, .error e⟩ => ⟨asked, events, .error e⟩
    | ⟨asked, events, .ok template⟩ =>
      let templateTokens := match template with
        | none => 0
        | some r => r.store.size
      let event := Event.componentParsed script.tokens.length templateTokens
        regions.styles.length file
      ⟨asked, events ++ [event], .ok ⟨script, template, regions.styles⟩⟩

/-- A file read as a component or, when its suffix is no component
extension, as a script. The markup document may be given; else the markup
grammar is asked for it. -/
def read (grammars : Grammars) (parser : ScriptParser) (settings : Settings) (code : Text)
    (file : Option Text) (document : Option Markup.Document) : Reading Component :=
  let shown := file.filter (· ≠ [])
  if settings.isComponent file then
    let built : Reading Markup.Document := match document with
      | some d => ⟨[], [], .ok d⟩
      | none => Markup.Document.build grammars code settings.template.containerTags
    match built.result with
    | .error e => ⟨[], built.events, .error e⟩
    | .ok d =>
      let r := readRegions code shown settings parser d
      ⟨r.asked, built.events ++ r.events, r.result⟩
  else
    ⟨[code], [.plainScript code.length shown], (parser 0 code).map fun p => ⟨p, none, []⟩⟩

end Component

end SingleFile
