import SingleFile.Settings

/-!
# Directives — attribute names with a meaning for the template

A directive is spelled in long form, with a reserved lead, or with one of
two shorthands. `DirectiveRules.isDirective` tells directives from plain
attributes; `DirectiveRules.decompose` takes any name apart into its
name, argument and modifiers and never fails.
-/

namespace SingleFile

/-- The parts of an attribute name. -/
structure DirectiveParts where
  name : Text
  argument : Option Text
  modifiers : List Text
  isShorthand : Bool
  deriving DecidableEq, Repr

/-- How directives are spelled, and which of them are known. -/
structure DirectiveRules where
  lead : Text
  bind : Text
  event : Text
  known : List Text
  deriving DecidableEq, Repr

namespace DirectiveRules

/-- The rules that the settings lay down. -/
def ofSettings (s : TemplateSettings) : DirectiveRules :=
  ⟨s.directiveLead, s.bindShorthand, s.eventShorthand, s.knownDirectives⟩

/-- Whether a directive may end with a character: neither with a dot or a
colon nor with a character of the shorthands. -/
def mayEnd (r : DirectiveRules) (c : Char) : Bool :=
  !(c = '.' || c = ':' || r.bind.contains c || r.event.contains c)

/-- Whether what follows the lead of a name makes it a directive: its last
character may end one, or the character before a final line feed may. -/
def mayFollow (r : DirectiveRules) (rest : Text) : Bool :=
  match rest.reverse with
  | [] => false
  | c :: before =>
    r.mayEnd c || (c = '\n' && match before with
      | [] => false
      | d :: _ => r.mayEnd d)

/-- Whether an attribute name spells a directive. -/
def isDirective (r : DirectiveRules) (name : Text) : Bool :=
  [r.lead, r.bind, r.event].any fun lead =>
    match name.dropLead? lead with
    | some rest => r.mayFollow rest
    | none => false

/-- The shorthand that a name begins with, tried in order, and the rest. -/
def shorthand? (r : DirectiveRules) (name : Text) : Option (Text × Text) :=
  [r.bind, r.event].findSome? fun sigil => (name.dropLead? sigil).map (sigil, ·)

/-- The text without the lead, when it begins with it. -/
def dropLead (r : DirectiveRules) (name : Text) : Text := (name.dropLead? r.lead).getD name

/-- The parts of an attribute name. A shorthand, or else what stands before
the first colon, is the name and the piece up to the next dot the argument;
without either that piece is the name. The pieces after further dots are
the modifiers. The lead is dropped from the name last. -/
def decompose (r : DirectiveRules) (raw : Text) : DirectiveParts :=
  match r.shorthand? raw with
  | some (sigil, rest) =>
    let (head, modifiers) := rest.pieces '.'
    ⟨r.dropLead sigil, some head, modifiers, true⟩
  | none =>
    match raw.dropWhile (· ≠ ':') with
    | [] =>
      let (head, modifiers) := raw.pieces '.'
      ⟨r.dropLead head, none, modifiers, false⟩
    | _ :: rest =>
      let (head, modifiers) := Text.pieces '.' rest
      ⟨r.dropLead (raw.takeWhile (· ≠ ':')), some head, modifiers, false⟩

/-- The name of a directive in long form. -/
def canonicalName (r : DirectiveRules) (parts : DirectiveParts) : Text :=
  if parts.isShorthand ∧ parts.name = r.bind then ['b', 'i', 'n', 'd']
  else if parts.isShorthand ∧ parts.name = r.event then ['o', 'n']
  else parts.name

/-- Whether a directive is one of the known ones. -/
def isKnown (r : DirectiveRules) (parts : DirectiveParts) : Bool :=
  r.known.contains (r.canonicalName parts)

end DirectiveRules

end SingleFile
