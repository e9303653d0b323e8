import SingleFile.Toml.Nest
import SingleFile.Toml.Scalar

/-!
# Reading TOML

`Toml.read?` reads a settings text, line ends being line feeds, into the
fields of its outermost table, or says that the text is not TOML.
-/

namespace SingleFile

namespace Toml

/-! ## Keys -/

/-- Whether a character may stand in a key without quotes. -/
def isBare (c : Char) : Bool := c.isAlphanum || c = '-' || c = '_'

/-- One key, bare or in quotes. -/
def key? : Text → Option (Text × Text)
  | '"' :: t => basic? t.length t
  | '\'' :: t => literal? t
  | t =>
    let bare := t.takeWhile isBare
    if bare = [] then none else some (bare, t.dropWhile isBare)

/-- Keys joined by dots, and the blanks after them. Each step reads at least
one character. -/
def keyPath? : (steps : Nat) → Text → Option (KeyPath × Text)
  | 0, _ => none
  | steps + 1, t => do
    let (key, t) ← key? t
    match skipSpace t with
    | '.' :: t =>
      let (path, t) ← keyPath? steps (skipSpace t)
      return (key :: path, t)
    | t => return ([key], t)

/-! ## Values -/

/-- A comment does not hold control characters; it ends before a line feed. -/
def skipComment? : Text → Option Text
  | '#' :: t =>
    if (t.takeWhile (· ≠ '\n')).any isControl then none else some (t.dropWhile (· ≠ '\n'))
  | t => some t

/-- The text after blanks, line feeds and comments. Each step skips at least
one character or is the last. -/
def skipLines? : (steps : Nat) → Text → Option Text
  | 0, t => some t
  | steps + 1, t => do
    let t := t.dropWhile isSpaceOrBreak
    match t with
    | '#' :: _ => skipLines? steps (← skipComment? t)
    | _ => return t

/-- The text after blanks, line feeds and comments. -/
def skipGap? (t : Text) : Option Text := skipLines? (t.length + 1) t

mutual
/-- A value. The steps bound how deep and how far the reading goes. -/
def value? : (steps : Nat) → Text → Option (Value × Text)
  | 0, _ => none
  | steps + 1, '[' :: t => do
    match ← skipGap? t with
    | ']' :: t => return (.array [], t)
    | t =>
      let (items, t) ← items? steps t
      return (.array items, t)
  | steps + 1, '{' :: t =>
    match skipSpace t with
    | '}' :: t => some (.table [], t)
    | t => (inline? steps {} [] t).map fun (fields, t) => (.table fields, t)
  | _ + 1, t => scalar? t

/-- The items of a list, after its bracket and up to the closing one. -/
def items? : (steps : Nat) → Text → Option (List Value × Text)
  | 0, _ => none
  | steps + 1, t => do
    let (value, t) ← value? steps t
    match ← skipGap? t with
    | ']' :: t => return ([value], t)
    | ',' :: t =>
      match ← skipGap? t with
      | ']' :: t => return ([value], t)
      | t =>
        let (more, t) ← items? steps t
        return (value :: more, t)
    | _ => none

/-- The fields of a table in braces, after those read before and up to the
closing brace. -/
def inline? : (steps : Nat) → Marks → Fields → Text → Option (Fields × Text)
  | 0, _, _, _ => none
  | steps + 1, marks, fields, t => do
    let (path, t) ← keyPath? (t.length + 1) t
    let t ← after? '=' t
    let (value, t) ← value? steps (skipSpace t)
    if marks.isFrozen path then none
    let key ← path.getLast?
    let fields ← within false (addField key value) path.dropLast fields
    match skipSpace t with
    | '}' :: t => return (fields, t)
    | ',' :: t =>
      let marks := match value with
        | .table _ | .array _ => marks.freeze path
        | _ => marks
      inline? steps marks fields (skipSpace t)
    | _ => none
end

/-- A path of keys, an equals sign and a value. -/
def pair? (t : Text) : Option (KeyPath × Value × Text) := do
  let (path, t) ← keyPath? (t.length + 1) t
  let t ← after? '=' t
  let (value, t) ← value? (2 * t.length + 2) (skipSpace t)
  return (path, value, t)

/-! ## Documents -/

/-- A document read so far: its fields, its marks, the paths that count as
declared once the next table begins, and the table being filled. -/
structure State where
  fields : Fields := []
  marks : Marks := {}
  pending : List KeyPath := []
  header : KeyPath := []

namespace State

/-- The state in which the next table begins. -/
def settle (s : State) : State :=
  { s with marks := s.pending.foldl Marks.declare s.marks, pending := [] }

/-- The state with a table opened. -/
def openTable (s : State) (path : KeyPath) : Option State :=
  if s.marks.isDeclared path || s.marks.isFrozen path then none
  else do
    let fields ← within true some path s.fields
    return { s with fields := fields, marks := s.marks.declare path, header := path }

/-- The state with an item added to a list of tables. -/
def openItem (s : State) (path : KeyPath) : Option State :=
  if s.marks.isFrozen path then none
  else do
    let key ← path.getLast?
    let fields ← within true (addItem key) path.dropLast s.fields
    return { s with
      fields := fields
      marks := (s.marks.release path).declare path
      header := path }

/-- The paths between the table being filled and a field of it. -/
def between (header path : KeyPath) : List KeyPath :=
  (List.range (path.length - 1)).map fun i => header ++ path.take (i + 1)

/-- The state with a field added below the table being filled. -/
def addPair (s : State) (path : KeyPath) (value : Value) : Option State := do
  let tables := between s.header path
  if tables.any s.marks.isDeclared then none
  let parent := s.header ++ path.dropLast
  if s.marks.isFrozen parent then none
  let key ← path.getLast?
  let fields ← within true (addField key value) parent s.fields
  let marks := match value with
    | .table _ | .array _ => s.marks.freeze (s.header ++ path)
    | _ => s.marks
  return { s with fields := fields, marks := marks, pending := s.pending ++ tables }

/-- The state after one statement, and what follows it. -/
def statement? (s : State) : Text → Option (State × Text)
  | [] => some (s, [])
  | '\n' :: t => some (s, '\n' :: t)
  | '#' :: t => some (s, '#' :: t)
  | '[' :: '[' :: t => do
    let (path, t) ← keyPath? (t.length + 1) (skipSpace t)
    let s ← s.settle.openItem path
    let t ← after? ']' (← after? ']' t)
    return (s, t)
  | '[' :: t => do
    let (path, t) ← keyPath? (t.length + 1) (skipSpace t)
    let s ← s.settle.openTable path
    return (s, ← after? ']' t)
  | t => do
    let (path, value, t) ← pair? t
    return (← s.addPair path value, t)

/-- The state after all statements, each of which ends a line. Each step
reads at least one character or is the last. -/
def statements? : (steps : Nat) → State → Text → Option State
  | 0, s, _ => some s
  | steps + 1, s, t => do
    let (s, t) ← s.statement? (skipSpace t)
    match ← skipComment? (skipSpace t) with
    | [] => return s
    | '\n' :: t => statements? steps s t
    | _ => none

end State

/-- The fields of the outermost table of a text. -/
def read? (t : Text) : Option Fields :=
  (State.statements? (t.length + 1) {} t).map (·.fields)

end Toml

end SingleFile
