import SingleFile.Token

/-!
# Edge indexes — the last token with an edge at an offset

An `EdgeIndex` says for an offset at which place the token stands that
has its start there, or its stop. Only empty tokens can share an edge, and
the one that is put in last counts.
-/

namespace SingleFile

/-- The offset of an edge of a token. -/
def Token.edge (edge : Edge) (t : Token) : Nat :=
  match edge with
  | .start => t.range.start
  | .stop => t.range.stop

/-- Offsets with the places of tokens, the latest first. -/
structure EdgeIndex where
  entries : List (Nat × Nat)
  deriving DecidableEq, Repr

namespace EdgeIndex

/-- The index without offsets. -/
def empty : EdgeIndex := ⟨[]⟩

/-- The index with a place for an offset, instead of any it had. -/
def put (index : EdgeIndex) (offset place : Nat) : EdgeIndex := ⟨(offset, place) :: index.entries⟩

/-- The place for an offset. -/
def get? (index : EdgeIndex) (offset : Nat) : Option Nat := index.entries.lookup offset

/-- The index of some tokens, put in one by one, each with its place among them. -/
def ofTokens (edge : Edge) (ts : List Token) : EdgeIndex :=
  ts.zipIdx.foldl (fun index (t, place) => index.put (t.edge edge) place) empty

variable {index : EdgeIndex} {offset place : Nat}

/-- What was put in last is found. -/
@[simp]
theorem get?_put_self : (index.put offset place).get? offset = some place := by
  simp [get?, put]

/-- What is put in for another offset changes nothing. -/
theorem get?_put_of_ne {other : Nat} (h : offset ≠ other) :
    (index.put other place).get? offset = index.get? offset := by
  simp [get?, put, List.lookup_cons, beq_eq_false_iff_ne.2 h]

/-- One more token is put in with the place at the end. -/
theorem ofTokens_concat (edge : Edge) (ts : List Token) (t : Token) :
    ofTokens edge (ts ++ [t]) = (ofTokens edge ts).put (t.edge edge) ts.length := by
  simp [ofTokens, List.zipIdx_append]

end EdgeIndex

end SingleFile
