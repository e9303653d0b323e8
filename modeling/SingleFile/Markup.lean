import SingleFile.Token
import SingleFile.Text.Case

/-!
# Markup trees

Markup as a reader of HTML reports it: every entry marks its place in the
source, elements also mark their tags. Elements that keep their children
apart, as `template` does, hold them in `content`. `Entry.sources` is the
one view of an element's children that does not depend on this choice.
-/

namespace SingleFile

namespace Markup

/-- An attribute with its value already unquoted and decoded; the mark
covers the name and the value. -/
structure Attribute where
  name : Text
  value : Text
  mark : Mark
  deriving DecidableEq, Repr

/-- The place of an element and of its tags. -/
structure ElementMark where
  whole : Mark
  startTag : Option Mark := none
  endTag : Option Mark := none
  deriving DecidableEq, Repr

/-- An entry of a markup tree. -/
inductive Entry
  /-- A run of text. -/
  | text (mark : Mark)
  /-- A comment without its delimiters. -/
  | comment (data : Text) (mark : Mark)
  /-- Any other entry, such as a document type. -/
  | other (name : Text) (mark : Mark)
  /-- An element; `content` is present when its children are kept apart. -/
  | element (name : Text) (mark : ElementMark) (attributes : List Attribute)
      (children : List Entry) (content : Option (List Entry))
  /-- Entries without an element around them. -/
  | fragment (children : List Entry)
  /-- The entries of a whole source. -/
  | document (children : List Entry)
  deriving Repr, Inhabited

/-- The entries of a whole source. -/
structure Document where
  children : List Entry
  deriving Repr

/-- An element, taken out of the entries it stands among. -/
structure Element where
  name : Text
  mark : ElementMark
  attributes : List Attribute
  children : List Entry
  content : Option (List Entry)
  deriving Repr

namespace Element

/-- The element as an entry. -/
def entry (e : Element) : Entry := .element e.name e.mark e.attributes e.children e.content

/-- The first attribute whose name in lower case is the given one. -/
def attribute? (e : Element) (name : Text) : Option Attribute :=
  e.attributes.find? fun a => a.name.lower == name

end Element

namespace Entry

/-- The name of an entry. -/
def name : Entry → Text
  | text _ => "#text".toList
  | comment _ _ => "#comment".toList
  | other name _ => name
  | element name _ _ _ _ => name
  | fragment _ => "#document-fragment".toList
  | document _ => "#document".toList

/-- The place of an entry; documents and fragments have none. -/
def mark? : Entry → Option Mark
  | text mark | comment _ mark | other _ mark => some mark
  | element _ mark _ _ _ => some mark.whole
  | fragment _ | document _ => none

/-- The entry as an element, when it is one. -/
def element? : Entry → Option Element
  | element name mark attributes children content => some ⟨name, mark, attributes, children, content⟩
  | _ => none

end Entry

end Markup

end SingleFile
