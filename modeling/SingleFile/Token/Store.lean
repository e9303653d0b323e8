import SingleFile.Token.EdgeIndex

/-!
# Token stores — tokens in order, looked up by their edges

A `TokenStore` takes tokens in source order and, once sealed, takes no
more. It indexes them by the offsets of their edges. A lookup is given a
range and is anchored on a token edge: the range must start, or end, where
some token starts or ends. From there it goes through the tokens place by
place.
-/

namespace SingleFile

/-- Tokens in source order, none before the end of the one it follows, with
an index of their starts and one of their stops. -/
structure TokenStore where
  tokens : List Token
  starts : EdgeIndex
  stops : EdgeIndex
  isSealed : Bool
  ordered : tokens.Pairwise Token.Before
  starts_eq : starts = .ofTokens .start tokens
  stops_eq : stops = .ofTokens .stop tokens

namespace TokenStore

/-- The store without tokens. -/
def empty : TokenStore := ⟨[], .empty, .empty, false, .nil, rfl, rfl⟩

/-- The number of tokens. -/
def size (s : TokenStore) : Nat := s.tokens.length

/-- Adding a token at or after the end of the last one keeps the order. -/
theorem pairwise_concat {ts : List Token} {t : Token} (hts : ts.Pairwise Token.Before)
    (h : ∀ last, ts.getLast? = some last → last.Before t) :
    (ts ++ [t]).Pairwise Token.Before := by
  refine List.pairwise_append.2 ⟨hts, List.pairwise_singleton _ _, ?_⟩
  intro a ha b hb
  rw [List.mem_singleton.1 hb]
  cases hl : ts.getLast? with
  | none => simp [List.getLast?_eq_none_iff.1 hl] at ha
  | some last =>
    obtain ⟨init, rfl⟩ := List.getLast?_eq_some_iff.1 hl
    have hlast := h last hl
    rcases List.mem_append.1 ha with hi | hi
    · exact ((List.pairwise_append.1 hts).2.2 a hi last (List.mem_singleton.2 rfl)).trans hlast
    · rw [List.mem_singleton.1 hi]
      exact hlast

/-- The store with one more token at its end, put into both indexes. -/
def concat (s : TokenStore) (t : Token)
    (h : ∀ last, s.tokens.getLast? = some last → last.Before t) : TokenStore :=
  { s with
    tokens := s.tokens ++ [t]
    starts := s.starts.put t.range.start s.size
    stops := s.stops.put t.range.stop s.size
    ordered := pairwise_concat s.ordered h
    starts_eq := by rw [s.starts_eq, EdgeIndex.ofTokens_concat]; rfl
    stops_eq := by rw [s.stops_eq, EdgeIndex.ofTokens_concat]; rfl }

@[simp]
theorem tokens_concat {s : TokenStore} {t : Token}
    (h : ∀ last, s.tokens.getLast? = some last → last.Before t) :
    (s.concat t h).tokens = s.tokens ++ [t] := rfl

@[simp]
theorem isSealed_concat {s : TokenStore} {t : Token}
    (h : ∀ last, s.tokens.getLast? = some last → last.Before t) :
    (s.concat t h).isSealed = s.isSealed := rfl

/-- The store with one more token, which may not start before the last one ends. -/
def push (s : TokenStore) (t : Token) : Except Breach TokenStore :=
  if s.isSealed then .error .storeSealed
  else
    match hl : s.tokens.getLast? with
    | none => .ok (s.concat t (by simp [hl]))
    | some last =>
      if h : last.range.stop ≤ t.range.start then
        .ok (s.concat t (by
          intro l hl'
          rw [hl] at hl'
          rw [← Option.some.inj hl']
          exact h))
      else .error (.overlap t.raw t.range.start last.raw last.range.stop)

/-- The tokens pushed one by one, up to the first that is refused. -/
def pushAll (s : TokenStore) : List Token → TokenStore × Option Breach
  | [] => (s, none)
  | t :: ts =>
    match s.push t with
    | .ok s' => s'.pushAll ts
    | .error b => (s, some b)

/-- The store that takes no more tokens. -/
def close (s : TokenStore) : TokenStore := { s with isSealed := true }

/-- The token at a place of the store; a negative place counts from the end. -/
def get? (s : TokenStore) (i : Int) : Option Token :=
  if i < 0 then
    if 0 ≤ s.size + i then s.tokens[(s.size + i).toNat]? else none
  else s.tokens[i.toNat]?

/-- Two stores hold the same tokens. -/
def sameTokens (s t : TokenStore) : Bool := decide (s.tokens = t.tokens)

/-- How a store is shown. -/
def summary (s : TokenStore) : String :=
  let word := if s.isSealed then "True" else "False"
  s!"TokenStore(tokens={s.size}, sealed={word})"

/-! ## Lookups -/

/-- The place that the index of an edge has for an offset. -/
def placeOf? (s : TokenStore) (edge : Edge) (offset : Nat) : Option Nat :=
  match edge with
  | .start => s.starts.get? offset
  | .stop => s.stops.get? offset

/-- The place that a lookup starts from and the number of tokens that it skips. -/
def anchor (s : TokenStore) (edge : Edge) (offset : Nat) (skip : Int) :
    Except Breach (Nat × Nat) :=
  match s.placeOf? edge offset with
  | none => .error (.noTokenAt edge offset)
  | some place => if 0 ≤ skip then .ok (place, skip.toNat) else .error (.negativeSkip skip)

/-- The token that is met after a number of tokens to skip, from a place on step by step. Comments
are passed over unless they are counted, and a token that lies beyond ends the walk, as the ends of
the store do. It goes through `left` places at most. -/
def walk (s : TokenStore) (step : Int) (comments : Bool) (beyond : Token → Bool) :
    (left : Nat) → (place : Int) → (skip : Nat) → Option Token
  | 0, _, _ => none
  | left + 1, place, skip =>
    if place < 0 then none
    else
      match s.tokens[place.toNat]? with
      | none => none
      | some t =>
        if beyond t then none
        else if !comments && t.kind.isComment then
          s.walk step comments beyond left (place + step) skip
        else
          match skip with
          | 0 => some t
          | skip + 1 => s.walk step comments beyond left (place + step) skip

/-- The first token of a range, after a number of tokens to skip. With
comments counted, the token that many places on; else the walk goes on up to
the first token that ends past the range. -/
def firstToken (s : TokenStore) (span : Range) (skip : Int) (comments : Bool) :
    Except Breach (Option Token) := do
  let (place, skip) ← s.anchor .start span.start skip
  if comments then return s.tokens[place + skip]?.filter fun t => t.range.stop ≤ span.stop
  else return s.walk 1 false (fun t => span.stop < t.range.stop) s.size place skip

/-- The last token of a range, after a number of tokens to skip backwards. -/
def lastToken (s : TokenStore) (span : Range) (skip : Int) (comments : Bool) :
    Except Breach (Option Token) := do
  let (place, skip) ← s.anchor .stop span.stop skip
  if comments then
    if skip ≤ place then
      return s.tokens[place - skip]?.filter fun t => span.start ≤ t.range.start
    else return none
  else return s.walk (-1) false (fun t => t.range.start < span.start) s.size place skip

/-- The token before a range, after a number of tokens to skip backwards. -/
def tokenBefore (s : TokenStore) (span : Range) (skip : Int) (comments : Bool) :
    Except Breach (Option Token) := do
  let (place, skip) ← s.anchor .start span.start skip
  return s.walk (-1) comments (fun _ => false) s.size (place - 1) skip

/-- The token after a range, after a number of tokens to skip. -/
def tokenAfter (s : TokenStore) (span : Range) (skip : Int) (comments : Bool) :
    Except Breach (Option Token) := do
  let (place, skip) ← s.anchor .stop span.stop skip
  return s.walk 1 comments (fun _ => false) s.size (place + 1) skip

end TokenStore

end SingleFile
