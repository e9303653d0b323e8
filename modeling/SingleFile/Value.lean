import SingleFile.Text

/-!
# Values — the data of settings and of printed results

A `Value` is a tree of scalars, lists and tables. Tables keep their
fields in order and hold at most one field of a name as long as fields
are added with `put`.
-/

namespace SingleFile

/-- A piece of data. Decimals, dates and times are kept as they are spelled. -/
inductive Value
  | null
  | boolean (b : Bool)
  | integer (n : Int)
  | decimal (spelling : Text)
  | dateTime (spelling : Text)
  | string (s : Text)
  | array (items : List Value)
  | table (fields : List (Text × Value))
  deriving Repr, Inhabited

namespace Value

/-- A field of a table, or nothing where there is no such field. -/
def get? (fields : List (Text × Value)) (key : Text) : Option Value := fields.lookup key

/-- The fields with the value of a field replaced where it stands, or with
the field added at the end. -/
def put (key : Text) (value : Value) : List (Text × Value) → List (Text × Value)
  | [] => [(key, value)]
  | (k, v) :: rest => if k = key then (k, value) :: rest else (k, v) :: put key value rest

/-- A number as a value. -/
def ofNat (n : Nat) : Value := .integer n

/-- A string as a value. -/
def ofString (s : String) : Value := .string s.toList

/-- What may be absent, as a value. -/
def ofOption (f : α → Value) : Option α → Value
  | none => .null
  | some a => f a

/-- A table whose field names are given as strings. -/
def record (fields : List (String × Value)) : Value :=
  .table (fields.map fun f => (f.1.toList, f.2))

/-- After a field is put it is found. -/
theorem get?_put_self (key : Text) (value : Value) (fields : List (Text × Value)) :
    get? (put key value fields) key = some value := by
  induction fields with
  | nil => simp [put, get?]
  | cons f rest ih =>
    obtain ⟨k, v⟩ := f
    by_cases h : k = key
    · simp [put, get?, h]
    · have hk : (key == k) = false := by simpa using fun e => h e.symm
      simpa [put, get?, h, List.lookup_cons, hk] using ih

/-- Other fields are found as before. -/
theorem get?_put_of_ne {key other : Text} (h : other ≠ key) (value : Value)
    (fields : List (Text × Value)) :
    get? (put key value fields) other = get? fields other := by
  induction fields with
  | nil =>
    have hk : (other == key) = false := by simpa using h
    simp [put, get?, List.lookup_cons, hk]
  | cons f rest ih =>
    obtain ⟨k, v⟩ := f
    by_cases hk : k = key
    · subst hk
      have : (other == k) = false := by simpa using h
      simp [put, get?, List.lookup_cons, this]
    · simp only [put, if_neg hk, get?, List.lookup_cons] at ih ⊢
      rw [ih]

end Value

end SingleFile
