import SingleFile.Text.Quoted
import SingleFile.Value

/-!
# Values as JSON text

Each item of a list and each field of a table stands on a line of its
own, indented by two spaces more than its list or table; an empty list or
table stays on one line. Characters outside ASCII are written as
themselves.
-/

namespace SingleFile

namespace Value

/-- How a character is written inside a JSON string. -/
def jsonEscaped (c : Char) : Text :=
  if c = '"' then ['\\', '"']
  else if c = '\\' then ['\\', '\\']
  else if c = '\n' then ['\\', 'n']
  else if c = '\r' then ['\\', 'r']
  else if c = '\t' then ['\\', 't']
  else if c = '\x08' then ['\\', 'b']
  else if c = '\x0c' then ['\\', 'f']
  else if c.toNat < 0x20 then ['\\', 'u'] ++ Text.hex 4 c.toNat
  else [c]

/-- A JSON string. -/
def jsonString (t : Text) : Text := '"' :: t.flatMap jsonEscaped ++ ['"']

/-- The line break before an item at a depth. -/
def lineBreak (depth : Nat) : Text := '\n' :: List.replicate (2 * depth) ' '

/-- Items between brackets, each on its own line one level deeper. -/
def bracketed (opening closing : Char) (depth : Nat) : List Text → Text
  | [] => [opening, closing]
  | items =>
    opening :: lineBreak (depth + 1) ++
      Text.joinWith (',' :: lineBreak (depth + 1)) items ++ lineBreak depth ++ [closing]

mutual
/-- The JSON text of a value that stands at a depth. -/
def json (depth : Nat) : Value → Text
  | .null => "null".toList
  | .boolean b => if b then "true".toList else "false".toList
  | .integer n => (toString n).toList
  | .decimal spelling => spelling
  | .dateTime spelling => jsonString spelling
  | .string s => jsonString s
  | .array items => bracketed '[' ']' depth (jsonItems (depth + 1) items)
  | .table fields => bracketed '{' '}' depth (jsonFields (depth + 1) fields)

/-- The JSON texts of the items of a list. -/
def jsonItems (depth : Nat) : List Value → List Text
  | [] => []
  | v :: vs => json depth v :: jsonItems depth vs

/-- The JSON texts of the fields of a table. -/
def jsonFields (depth : Nat) : List (Text × Value) → List Text
  | [] => []
  | (key, v) :: fields =>
    (jsonString key ++ [':', ' '] ++ json depth v) :: jsonFields depth fields
end

end Value

end SingleFile
