import SingleFile.Value

/-!
# Nested tables of TOML

Tables are opened, extended and closed by paths of keys. `within` changes
the table that a path leads to, making tables on the way; `Marks`
remembers which paths may not be opened or changed any more.
-/

namespace SingleFile

namespace Toml

/-- The fields of a table. -/
abbrev Fields := List (Text × Value)

/-- The keys that lead to a table or to one of its fields. -/
abbrev KeyPath := List Text

/-- The fields with the table at a path changed. Tables that are missing on
the way are made; where lists are passed through, the last item of a list
counts. Nothing comes of a path that meets any other value. -/
def within (throughLists : Bool) (change : Fields → Option Fields) :
    KeyPath → Fields → Option Fields
  | [], fields => change fields
  | key :: path, fields =>
    match Value.get? fields key with
    | none => (within throughLists change path []).map fun t => Value.put key (.table t) fields
    | some (.table inner) =>
      (within throughLists change path inner).map fun t => Value.put key (.table t) fields
    | some (.array items) =>
      match throughLists, items.getLast? with
      | true, some (.table inner) =>
        (within throughLists change path inner).map fun t =>
          Value.put key (.array (items.dropLast ++ [.table t])) fields
      | _, _ => none
    | some _ => none

/-- The fields with a value at a key that is still free. -/
def addField (key : Text) (value : Value) (fields : Fields) : Option Fields :=
  match Value.get? fields key with
  | none => some (Value.put key value fields)
  | some _ => none

/-- The fields with an empty table added to the list at a key. -/
def addItem (key : Text) (fields : Fields) : Option Fields :=
  match Value.get? fields key with
  | none => some (Value.put key (.array [.table []]) fields)
  | some (.array items) => some (Value.put key (.array (items ++ [.table []])) fields)
  | some _ => none

/-- The paths that are no longer open: those of tables that were declared,
and those of values below which nothing may change. -/
structure Marks where
  declared : List KeyPath := []
  frozen : List KeyPath := []

namespace Marks

/-- Whether the table at a path was declared. -/
def isDeclared (m : Marks) (path : KeyPath) : Bool := path ≠ [] && m.declared.contains path

/-- Whether a path lies at or below a value that may not change. -/
def isFrozen (m : Marks) (path : KeyPath) : Bool := m.frozen.any fun p => p.isPrefixOf path

/-- The marks with the table at a path declared. -/
def declare (m : Marks) (path : KeyPath) : Marks := { m with declared := path :: m.declared }

/-- The marks with the value at a path frozen. -/
def freeze (m : Marks) (path : KeyPath) : Marks := { m with frozen := path :: m.frozen }

/-- The marks without those at or below a path. -/
def release (m : Marks) (path : KeyPath) : Marks :=
  ⟨m.declared.filter fun p => !path.isPrefixOf p, m.frozen.filter fun p => !path.isPrefixOf p⟩

end Marks

end Toml

end SingleFile
