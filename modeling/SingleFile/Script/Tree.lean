import SingleFile.Grammar.ByteOffsets
import SingleFile.Grammar.Recorded
import SingleFile.Script
import SingleFile.Text.Letter

/-!
# Script programs from concrete trees

A script text is handed to a grammar with a space for every U+2028 and
U+2029, which grammars do not take for blanks. A tree that has an error
is rejected at its first erroneous node. From any other tree the leaves
become tokens and comments, and the named nodes become the nodes of the
program; strings, templates and regular expressions are kept whole.
-/

namespace SingleFile

namespace Script

/-- The text as it is handed to a grammar. -/
def cleaned (t : Text) : Text := t.map fun c => if c = '\u2028' ∨ c = '\u2029' then ' ' else c

/-- The kinds of nodes that are kept whole. -/
def wholeKinds : List String := ["string", "template_string", "regex"]

/-- The kind of comment nodes. -/
def commentKind : String := "comment"

/-- The kind of nodes that a grammar puts around what it cannot read. -/
def errorKind : String := "ERROR"

/-! ## Tokens -/

mutual
/-- The leaves below a node: nodes without children and nodes kept whole. -/
def leaves : Cst → List Cst
  | ⟨kind, startByte, stopByte, isNamed, isMissing, hasError, children⟩ =>
    if children.isEmpty || wholeKinds.contains kind then
      [⟨kind, startByte, stopByte, isNamed, isMissing, hasError, children⟩]
    else leavesAll children

/-- The leaves below the nodes of a list. -/
def leavesAll : List Cst → List Cst
  | [] => []
  | node :: nodes => leaves node ++ leavesAll nodes
end

/-- The token kinds of nodes that are not known by their text alone. -/
def tokenKinds : List (String × TokenKind) :=
  [("identifier", .identifier), ("property_identifier", .identifier),
   ("shorthand_property_identifier", .identifier),
   ("shorthand_property_identifier_pattern", .identifier),
   ("private_property_identifier", .identifier), ("statement_identifier", .identifier),
   ("undefined", .identifier), ("number", .numeric), ("string", .string),
   ("template_string", .template), ("regex", .regularExpression), ("true", .boolean),
   ("false", .boolean), ("null", .null), ("this", .keyword), ("super", .keyword)]

/-- The kind of the token that a leaf becomes: a nameless leaf whose kind
consists of letters is a keyword, one that is not listed a punctuator. -/
def tokenKind (leaf : Cst) : TokenKind :=
  match tokenKinds.lookup leaf.kind with
  | some kind => kind
  | none =>
    let letters := leaf.kind.toList
    if !leaf.isNamed && !letters.isEmpty && letters.all Text.isLetter then .keyword
    else .punctuator

/-- The text of a comment without its delimiters, and its kind. -/
def commentBody (raw : Text) : TokenKind × Text :=
  if raw.beginsWith ['/', '/'] then (.line, raw.drop 2)
  else if raw.endsWith ['*', '/'] ∧ 4 ≤ raw.length then (.block, raw.slice 2 (-2))
  else (.block, raw.drop 2)

/-- The tokens and the comments that leaves become; empty leaves become none. -/
def tokensOf (t : Text) (index : LineIndex) (offsets : ByteOffsets) :
    List Cst → Except Breach (List Token × List Token)
  | [] => .ok ([], [])
  | leaf :: rest => do
    let (start, stop) := offsets.span leaf
    if start = stop then tokensOf t index offsets rest
    else if leaf.kind = commentKind then
      let (kind, value) := commentBody (t.slice start stop)
      let comment ← Token.ofSource kind t index start stop (some value)
      let (tokens, comments) ← tokensOf t index offsets rest
      return (tokens, comment :: comments)
    else
      let token ← Token.ofSource (tokenKind leaf) t index start stop none
      let (tokens, comments) ← tokensOf t index offsets rest
      return (token :: tokens, comments)

/-! ## Nodes -/

mutual
/-- The script node of a tree node. -/
def nodeOf (t : Text) (index : LineIndex) (offsets : ByteOffsets) :
    Cst → Except Breach ScriptNode
  | ⟨kind, startByte, stopByte, _, _, _, children⟩ => do
    let start := offsets.charIndex startByte
    let stop := offsets.charIndex stopByte
    let parts ← if wholeKinds.contains kind then pure [] else nodesOf t index offsets children
    let range ← Range.ofBounds start stop
    let location ← index.location start stop
    return ⟨kind, range, location, t.slice start stop, parts⟩

/-- The script nodes of the named nodes of a list that are no comments. -/
def nodesOf (t : Text) (index : LineIndex) (offsets : ByteOffsets) :
    List Cst → Except Breach (List ScriptNode)
  | [] => .ok []
  | node :: nodes => do
    if node.isNamed && node.kind ≠ commentKind then
      return (← nodeOf t index offsets node) :: (← nodesOf t index offsets nodes)
    else nodesOf t index offsets nodes
end

/-! ## Errors -/

mutual
/-- The first erroneous node of a tree, looked for only below children that
are flagged. -/
def firstError? : Cst → Option Cst
  | ⟨kind, startByte, stopByte, isNamed, isMissing, hasError, children⟩ =>
    if kind = errorKind ∨ isMissing then
      some ⟨kind, startByte, stopByte, isNamed, isMissing, hasError, children⟩
    else firstErrorOf? children

/-- The first erroneous node below the flagged nodes of a list. -/
def firstErrorOf? : List Cst → Option Cst
  | [] => none
  | node :: nodes =>
    if node.hasError ∨ node.isMissing ∨ node.kind = errorKind then
      match firstError? node with
      | some found => some found
      | none => firstErrorOf? nodes
    else firstErrorOf? nodes
end

/-- The error that a tree with an error stands for: what is missing, or the
first twenty characters of what is unexpected. -/
def syntaxError (t : Text) (index : LineIndex) (offsets : ByteOffsets) (root : Cst) :
    Except Breach SyntaxError := do
  let node := (firstError? root).getD root
  let start := offsets.charIndex node.startByte
  let message :=
    if node.isMissing then s!"Missing {quoted node.kind.toList}"
    else
      let shown := (offsets.slice t node).take 20
      s!"Unexpected token {quoted shown}"
  return ⟨message, start, ← index.position start⟩

/-! ## Programs -/

/-- The program that the concrete tree of a text stands for. -/
def ofTree (t : Text) (root : Cst) : Except Failure Program := do
  let offsets := ByteOffsets.ofText (cleaned t)
  let index := LineIndex.ofText t
  if root.hasError then
    throw (.syntaxError (← Failure.ofBreach (syntaxError t index offsets root)))
  let (tokens, comments) ← Failure.ofBreach (tokensOf t index offsets (leaves root))
  let body ← Failure.ofBreach (nodesOf t index offsets root.children)
  let range ← Failure.ofBreach (Range.ofBounds 0 t.length)
  return ⟨body, tokens, comments, range⟩

/-- The reader that hands texts to the grammar of a language. -/
def parser (grammars : Grammars) (language : Text) : ScriptParser := fun asked t =>
  match grammars language asked (cleaned t) with
  | .ok root => ofTree t root
  | .error (.unavailable problem) => .error (.scriptUnavailable problem)
  | .error (.noTree language) => .error (.noTree language)

/-- The requests to a grammar that reading the given texts makes. -/
def requests (language : Text) (asked : List Text) : List Grammar.Request :=
  asked.map fun t => ⟨language, cleaned t⟩

end Script

end SingleFile
