import SingleFile.Markup
import SingleFile.Template.Expression
import SingleFile.Template.Interpolation
import SingleFile.Template.Name
import SingleFile.Text.Blank

/-!
# Templates — markup entries to nodes and tokens

A template is read entry by entry, in order. Every part is emitted twice:
as a node of the tree and as tokens, between which the expressions of
interpolations and directives put the tokens of their scripts. Comments
and entries of other kinds leave no node.

The visitors here only emit; `Transformer.transform` enters what they
emit into a ledger and closes its token store at the end of a reading
that succeeds, after which the transformer takes no more entries.
-/

namespace SingleFile

namespace Template

/-- What reading a template needs besides its entries. -/
structure Context where
  reader : ExpressionReader
  rules : DirectiveRules
  opening : Text
  closing : Text

namespace Context

/-- The source text. -/
def text (c : Context) : Text := c.reader.text

/-- The context of a source text under some settings. -/
def ofSettings (text : Text) (parser : ScriptParser) (settings : TemplateSettings)
    (reporter : String) : Context :=
  ⟨.ofText text parser reporter, .ofSettings settings, settings.interpolationOpen,
    settings.interpolationClose⟩

/-! ## Places and tokens -/

/-- The place between two offsets. -/
def place (c : Context) (start stop : Int) : Emission Place := do
  let range ← Emission.ofBreach (Range.ofBounds start stop)
  return ⟨range, ← Emission.ofBreach (c.reader.index.location start stop)⟩

/-- A token between two offsets, if they are in order. -/
def token (c : Context) (kind : TokenKind) (start stop : Int) : Emission Unit := do
  if start < stop then
    let t ← Emission.ofBreach (Token.ofSource kind c.text c.reader.index start stop none)
    Emission.emit (.token t)

/-- A delimiter of markup. -/
def punctuator (c : Context) (start stop : Int) : Emission Unit :=
  c.token .punctuator start stop

/-! ## Leaves -/

/-- A run of literal text. -/
def textRun (c : Context) (start stop : Int) : Emission TextRun := do
  let raw := c.text.slice start stop
  c.token .htmlText start stop
  return ⟨← c.place start stop, Reference.unescape raw, raw⟩

/-- The blanks that an expression does not take part in, after and before
its delimiters: the code between them, trimmed. -/
def codeBounds (c : Context) (start stop : Int) : Except Failure (Int × Int) := do
  let isCode (o : Int) : Except Failure Bool := return !Text.isBlank (← charAt c.text o)
  let first ← skipUp isCode start (stop - start).toNat
  return (first, ← skipDown isCode stop (stop - first).toNat)

/-- An expression between delimiters of the given sizes. -/
def container (c : Context) (start stop : Int) (openSize closeSize : Nat) :
    Emission Container := do
  c.punctuator start (start + openSize)
  let (first, last) ← Emission.ofExcept (c.codeBounds (start + openSize) (stop - closeSize))
  let outcome ← c.reader.read first last
  c.punctuator (stop - closeSize) stop
  return ⟨← c.place start stop, outcome⟩

/-- The name between two offsets. -/
def named (c : Context) (start stop : Int) : Emission Identifier := do
  c.token .htmlIdentifier start stop
  return ⟨← c.place start stop, c.text.slice start stop⟩

/-- The first name at or after `start`, up to `limit`. -/
def tagName (c : Context) (start limit : Int) : Emission Identifier := do
  let first ← Emission.ofExcept (nameStart c.text start limit)
  let last ← Emission.ofExcept (nameRest c.text (min (first + 1) limit) limit)
  c.named first last

/-- The name from the first name character at or after `start` to the last
one before `stop`. -/
def nameBetween (c : Context) (start stop limit : Int) : Emission Identifier := do
  let first ← Emission.ofExcept (nameStart c.text start limit)
  let last ← Emission.ofExcept (nameStop c.text stop first)
  c.named first (max first last)

/-! ## Attributes -/

/-- The name of a directive attribute. -/
def directiveKey (c : Context) (start stop : Int) : Emission DirectiveKey := do
  c.token .htmlIdentifier start stop
  let parts := c.rules.decompose (c.text.slice start stop)
  return ⟨← c.place start stop, parts⟩

/-- The value of a plain attribute. -/
def attributeValue (c : Context) (start stop : Int) (value : Text) :
    Emission AttributeValue := do
  c.token .htmlAttributeValue start stop
  return ⟨← c.place start stop, value, c.text.slice start stop⟩

/-- The size of the quote at an offset before `stop`: one or none. -/
def quoteSize (c : Context) (offset stop : Int) : Except Failure Nat := do
  if offset < stop then
    let first ← charAt c.text offset
    return if first = '"' ∨ first = '\'' then 1 else 0
  else return 0

/-- The value of an attribute after its equals sign. -/
def attributeContent (c : Context) (isDirective : Bool) (value : Text) (start stop : Int) :
    Emission AttributeContent := do
  let first ← Emission.ofExcept <| skipUp
    (fun o => return !Text.isBlank (← charAt c.text o)) start (stop - start).toNat
  let size ← Emission.ofExcept (c.quoteSize first stop)
  if isDirective then return .container (← c.container first stop size size)
  else return .literal (← c.attributeValue first stop value)

/-- An attribute: its key, its equals sign and its value. -/
def readAttribute (c : Context) (a : Markup.Attribute) : Emission Attribute := do
  let start := a.mark.start
  let stop := a.mark.stop
  let isDirective := c.rules.isDirective a.name
  let sign : Int := ((c.text.find? '=' start stop).map Int.ofNat).getD stop
  let key ←
    if isDirective then do
      let last ← Emission.ofExcept (nameStop c.text sign start)
      pure (Key.directive (← c.directiveKey start last))
    else do
      pure (Key.identifier (← c.nameBetween start sign stop))
  let content ←
    if sign ≠ stop then do
      c.punctuator sign (sign + 1)
      pure (some (← c.attributeContent isDirective a.value (sign + 1) stop))
    else pure none
  return ⟨← c.place start stop, key, content⟩

/-- Several attributes in order. -/
def attributes (c : Context) : List Markup.Attribute → Emission (List Attribute)
  | [] => return []
  | a :: rest => do
    let first ← c.readAttribute a
    return first :: (← c.attributes rest)

/-! ## Tags -/

/-- The start tag of an element and its attributes; an element without a
marked start tag counts as its own. The tag closes itself when a slash
stands before its last character. -/
def openingTag (c : Context) (mark : Markup.ElementMark) (as : List Markup.Attribute) :
    Emission (OpeningTag × List Attribute) := do
  let tag := mark.startTag.getD mark.whole
  let start := tag.start
  let stop := tag.stop
  let isSelfClosing ← Emission.ofExcept <|
    if 2 ≤ stop - start then (charAt c.text (stop - 2)).map (· == '/') else .ok false
  c.punctuator start (start + 1)
  let _ ← c.tagName (start + 1) stop
  let attributes ← c.attributes as
  c.punctuator (stop - if isSelfClosing then 2 else 1) stop
  return (⟨← c.place start stop, isSelfClosing⟩, attributes)

/-- The end tag of an element that has one. -/
def closingTag (c : Context) (mark : Markup.ElementMark) : Emission (Option ClosingTag) :=
  match mark.endTag with
  | none => return none
  | some tag => do
    let start := tag.start
    let stop := tag.stop
    c.punctuator start (start + 2)
    let _ ← c.nameBetween (start + 2) (stop - 1) stop
    c.punctuator (stop - 1) stop
    return some ⟨← c.place start stop⟩

/-! ## Entries -/

/-- The text from `cursor` to `stop`, as runs around the given interpolations. -/
def runs (c : Context) (cursor stop : Int) : List (Nat × Nat) → Emission (List Node)
  | [] => do
    if cursor < stop then return [.text (← c.textRun cursor stop)] else return []
  | (first, last) :: rest => do
    let before ← if cursor < first then pure [.text (← c.textRun cursor first)] else pure []
    let inner ← c.container first last c.opening.length c.closing.length
    return before ++ .container inner :: (← c.runs last stop rest)

/-- A run of text, split at its interpolations. -/
def readText (c : Context) (m : Mark) : Emission (List Node) :=
  c.runs m.start m.stop (interpolations c.opening c.closing c.text m.start m.stop)

/-- A comment of the markup. -/
def readComment (c : Context) (data : Text) (m : Mark) : Emission Unit := do
  let place ← c.place m.start m.stop
  Emission.emit (.comment ⟨place, .htmlComment, data⟩)

mutual
/-- The nodes of an entry. -/
def visit (c : Context) : Markup.Entry → Emission (List Node)
  | .text m => c.readText m
  | .comment data m => do
    c.readComment data m
    return []
  | .other name m => do
    Emission.emit (.event (.entrySkipped c.reader.reporter name m.start))
    return []
  | .element name mark as children content => do
    let (opening, attributes) ← c.openingTag mark as
    let inner ← match content with
      | some entries => visitAll c entries
      | none => visitAll c children
    let closing ← c.closingTag mark
    let place ← c.place mark.whole.start mark.whole.stop
    return [.element place name opening closing attributes inner]
  | .fragment _ => Emission.ofBreach (.error (.unexpectedEntry "#document-fragment"))
  | .document _ => Emission.ofBreach (.error (.unexpectedEntry "#document"))

/-- The nodes of several entries. -/
def visitAll (c : Context) : List Markup.Entry → Emission (List Node)
  | [] => return []
  | entry :: rest => do
    let first ← visit c entry
    return first ++ (← visitAll c rest)
end

/-- The bounds of the marked entries: the least start and the greatest stop,
or zero when no entry is marked. -/
def bounds (entries : List Markup.Entry) : Int × Int :=
  match entries.filterMap Markup.Entry.mark? with
  | [] => (0, 0)
  | m :: rest => rest.foldl (fun b m => (min b.1 m.start, max b.2 m.stop)) (m.start, m.stop)

/-- A document around entries. -/
def readDocument (c : Context) (entries : List Markup.Entry) : Emission Document := do
  let children ← c.visitAll entries
  let (start, stop) := bounds entries
  return ⟨← c.place start stop, children⟩

end Context

/-! ## Transformers -/

/-- A transformed template. -/
structure Result where
  root : Document
  store : TokenStore
  comments : List Comment

/-- A context and what has been emitted in it. -/
structure Transformer where
  context : Context
  ledger : Ledger

namespace Transformer

/-- A transformer that has emitted nothing yet; some texts may have been
handed to the script reader before. -/
def start (c : Context) (asked : List Text) : Transformer := ⟨c, { asked := asked }⟩

/-- The entries transformed, and the transformer after that. Only a
transformer that has not yet returned a result transforms anything. -/
def transform (t : Transformer) (entries : List Markup.Entry) :
    Transformer × Except Failure Result :=
  if t.ledger.store.isSealed then (t, .error (.breach .transformerUsed))
  else
    match t.ledger.run (t.context.readDocument entries) with
    | (ledger, .error e) => (⟨t.context, ledger⟩, .error e)
    | (ledger, .ok root) =>
      let store := ledger.store.close
      let event := Event.templateTransformed t.context.reader.reporter store.size
        ledger.comments.length root.children.length
      (⟨t.context, { ledger with store := store, events := ledger.events ++ [event] }⟩,
        .ok ⟨root, store, ledger.comments⟩)

end Transformer

/-- The name under which a transformation reports. -/
def transformerName : String := "template-transformer"

/-- The entries of a template over a source text transformed, from a fresh
start. -/
def transform (entries : List Markup.Entry) (text : Text) (parser : ScriptParser)
    (settings : TemplateSettings) : Transformer × Except Failure Result :=
  (Transformer.start (.ofSettings text parser settings transformerName) []).transform entries

end Template

end SingleFile
