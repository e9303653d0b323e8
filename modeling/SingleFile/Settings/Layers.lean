import SingleFile.Value

/-!
# Layers of settings

A later layer of settings is laid over an earlier one. Where both hold a
table at a place the tables are merged; anywhere else the later layer's
value stands.
-/

namespace SingleFile

namespace Value

mutual
/-- A value laid over what stands at its place. -/
def laidOver (base : Option Value) : Value → Value
  | .table overlay =>
    match base with
    | some (.table fields) => .table (merge fields overlay)
    | _ => .table overlay
  | v => v

/-- The fields of `base` with those of the overlay laid over them one by one. -/
def merge (base : List (Text × Value)) : List (Text × Value) → List (Text × Value)
  | [] => base
  | (key, v) :: overlay => merge (put key (laidOver (get? base key) v) base) overlay
end

end Value

end SingleFile
