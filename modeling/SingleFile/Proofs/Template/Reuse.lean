import SingleFile.Proofs.Template.Ensures

/-!
# Templates — several calls of one transformer

A transformer is made for one call. A call that returns closes the store,
and every later one is refused (`answers_of_sealed`). A call that fails
closes nothing: what it had entered stays, and a later call goes on from
there. It returns what a new transformer would, behind everything that the
failed calls left, as long as no token comes to stand before a token left
over (`transform_eq_ok_iff_renewed`). So calls are kept apart exactly when
each call after failed ones fails as well, on its own or by its order
(`isolated_iff`).
-/

namespace SingleFile

namespace Template

namespace Transformer

/-- The transformer after some calls. -/
def after (t : Transformer) : List (List Markup.Entry) → Transformer
  | [] => t
  | entries :: calls => (t.transform entries).1.after calls

/-- What each of some calls answers. -/
def answers (t : Transformer) : List (List Markup.Entry) → List (Except Failure Result)
  | [] => []
  | entries :: calls => (t.transform entries).2 :: (t.transform entries).1.answers calls

/-- A new transformer in the place of one: the same context, and a script reader that has been asked
as often. -/
def renewed (t : Transformer) : Transformer := start t.context t.ledger.asked

variable {t : Transformer} {entries : List Markup.Entry} {calls : List (List Markup.Entry)}
  {result : Result}

/-! ## One call -/

/-- A transformer that has returned a result is used up. -/
theorem transform_of_sealed (h : t.ledger.store.isSealed = true) :
    t.transform entries = (t, .error (.breach .transformerUsed)) := by
  unfold transform
  rw [if_pos h]

/-- **A call closes the store exactly when it returns**; one that fails leaves it open. -/
theorem isSealed_transform_iff :
    (t.transform entries).1.ledger.store.isSealed = true ↔
      t.ledger.store.isSealed = true ∨ ∃ result, (t.transform entries).2 = .ok result := by
  by_cases hsealed : t.ledger.store.isSealed = true
  · rw [transform_of_sealed hsealed]
    exact iff_of_true hsealed (.inl hsealed)
  -- what is entered never closes the store
  have hentered : (t.ledger.run (t.context.readDocument entries)).1.store.isSealed =
      t.ledger.store.isSealed := by
    rw [Ledger.run_fst]
    obtain ⟨taken, -, -, hkept, -⟩ := t.ledger.store.pushAll_tokens
      (Effect.tokens (t.reading entries).effects)
    rwa [← Ledger.enterAll_store] at hkept
  unfold transform
  rw [if_neg hsealed]
  rcases hrun : t.ledger.run (t.context.readDocument entries) with ⟨ledger, e | root⟩
  · rw [hrun] at hentered
    dsimp only at hentered ⊢
    rw [hentered]
    exact ⟨.inl, fun h => h.elim id fun ⟨_, hok⟩ => by cases hok⟩
  · exact iff_of_true rfl (.inr ⟨_, rfl⟩)

/-- **What a result adds to what was left over**: it is the result of its own entries, behind the
tokens and comments that were there. -/
structure Continues (t : Transformer) (own result : Result) : Prop where
  ordered : ∀ a ∈ t.ledger.store.tokens, ∀ b ∈ own.store.tokens, a.Before b
  root_eq : result.root = own.root
  tokens_eq : result.store.tokens = t.ledger.store.tokens ++ own.store.tokens
  isSealed : result.store.isSealed = true
  comments_eq : result.comments = t.ledger.comments ++ own.comments

/-- **A call returns when a new transformer would**, the store is open and its tokens come after
those left over. -/
theorem transform_eq_ok_iff_renewed :
    (t.transform entries).2 = .ok result ↔
      t.ledger.store.isSealed = false ∧
        ∃ own, (t.renewed.transform entries).2 = .ok own ∧ t.Continues own result := by
  rw [transform_eq_ok_iff, List.pairwise_append]
  constructor
  · rintro ⟨hopen, hroot, ⟨-, hown, hcross⟩, htokens, hsealed, hcomments⟩
    refine ⟨hopen, ⟨result.root, .closed _ hown, Effect.comments (t.reading entries).effects⟩,
      transform_start_eq_ok_iff.2 ⟨hroot, hown, rfl, rfl, rfl⟩, ?_⟩
    exact ⟨hcross, rfl, htokens, hsealed, hcomments⟩
  · rintro ⟨hopen, own, hown, hcontinues⟩
    obtain ⟨hroot, hordered, htokens, -, hcomments⟩ := transform_start_eq_ok_iff.1 hown
    refine ⟨hopen, hcontinues.root_eq ▸ hroot, ⟨t.ledger.store.ordered, hordered, ?_⟩, ?_,
      hcontinues.isSealed, ?_⟩
    · exact htokens ▸ hcontinues.ordered
    · exact htokens ▸ hcontinues.tokens_eq
    · exact hcomments ▸ hcontinues.comments_eq

/-! ## Several calls -/

/-- **Once a result was returned**, every later call is refused. -/
theorem answers_of_sealed (h : t.ledger.store.isSealed = true) :
    ∀ answer ∈ t.answers calls, answer = .error (.breach .transformerUsed) := by
  induction calls with
  | nil => exact fun _ hanswer => absurd hanswer List.not_mem_nil
  | cons entries calls ih =>
    rw [answers, transform_of_sealed h]
    exact List.forall_mem_cons.2 ⟨rfl, ih⟩

/-- The store is open as long as no call has returned. -/
theorem isSealed_after_iff :
    (t.after calls).ledger.store.isSealed = true ↔
      t.ledger.store.isSealed = true ∨ ∃ result, .ok result ∈ t.answers calls := by
  induction calls generalizing t with
  | nil => simp [after, answers]
  | cons entries calls ih =>
    rw [after, ih, isSealed_transform_iff, answers, or_assoc]
    simp only [List.mem_cons, exists_or, eq_comm]

end Transformer

open Transformer

section

variable {c : Context} {calls before after : List (List Markup.Entry)}
  {entries : List Markup.Entry} {result : Result}

/-- **Calls are kept apart**: whatever one of them returns holds just the tokens and comments that a
new transformer returns for its entries, and none but the first returns anything. -/
structure Isolated (c : Context) (calls : List (List Markup.Entry)) : Prop where
  own : ∀ before entries after, calls = before ++ entries :: after → ∀ result,
    (((start c []).after before).transform entries).2 = .ok result →
    ∃ own, (((start c []).after before).renewed.transform entries).2 = .ok own ∧
      result.store.tokens = own.store.tokens ∧ result.comments = own.comments
  first : ∀ before entries after, calls = before ++ entries :: after → ∀ result,
    (((start c []).after before).transform entries).2 = .ok result → before = []

/-- **After some calls a call returns** exactly when none of them returned, a new transformer would
return, and its tokens come after all that were left over. -/
theorem returns_after_iff :
    (∃ result, (((start c []).after before).transform entries).2 = .ok result) ↔
      (∀ result, .ok result ∉ (start c []).answers before) ∧
        ∃ own, (((start c []).after before).renewed.transform entries).2 = .ok own ∧
          ∀ a ∈ ((start c []).after before).ledger.store.tokens, ∀ b ∈ own.store.tokens,
            a.Before b := by
  have hopen : ((start c []).after before).ledger.store.isSealed = false ↔
      ∀ result, .ok result ∉ (start c []).answers before := by
    rw [← Bool.not_eq_true, isSealed_after_iff, not_or, not_exists]
    exact and_iff_right Bool.false_ne_true
  rw [← hopen]
  constructor
  · rintro ⟨result, hresult⟩
    obtain ⟨hstore, own, hown, hcontinues⟩ := transform_eq_ok_iff_renewed.1 hresult
    exact ⟨hstore, own, hown, hcontinues.ordered⟩
  · rintro ⟨hstore, own, hown, hordered⟩
    have hall := List.pairwise_append.2
      ⟨((start c []).after before).ledger.store.ordered, own.store.ordered, hordered⟩
    exact ⟨⟨own.root, .closed _ hall, _⟩, transform_eq_ok_iff_renewed.2
      ⟨hstore, own, hown, hordered, rfl, rfl, rfl, rfl⟩⟩

/-- **When calls of one transformer are kept apart**: exactly when each call after others, none of
which returned, fails on its own or has a token that comes to stand before one left over. In any
case at most one call returns: those before it failed, it goes on from what they left, and those
after it are refused. -/
theorem isolated_iff (c : Context) (calls : List (List Markup.Entry)) :
    (Isolated c calls ↔
      ∀ before entries after, calls = before ++ entries :: after → before ≠ [] →
        (∀ result, .ok result ∉ (start c []).answers before) →
        ∀ own, (((start c []).after before).renewed.transform entries).2 = .ok own →
          ∃ a ∈ ((start c []).after before).ledger.store.tokens, ∃ b ∈ own.store.tokens,
            ¬ a.Before b) ∧
    ∀ before entries after, calls = before ++ entries :: after → ∀ result,
      (((start c []).after before).transform entries).2 = .ok result →
      (∀ other, .ok other ∉ (start c []).answers before) ∧
        (∃ own, (((start c []).after before).renewed.transform entries).2 = .ok own ∧
          ((start c []).after before).Continues own result) ∧
        ∀ answer ∈ (((start c []).after before).transform entries).1.answers after,
          answer = .error (.breach .transformerUsed) := by
  refine ⟨⟨?_, ?_⟩, ?_⟩
  · intro hisolated before entries after hcalls hbefore hnone own hown
    by_contra hordered
    simp only [not_exists, not_and, not_not] at hordered
    obtain ⟨result, hresult⟩ := returns_after_iff.2 ⟨hnone, own, hown, hordered⟩
    exact hbefore (hisolated.first before entries after hcalls result hresult)
  · intro hfails
    have hfirst : ∀ before entries after, calls = before ++ entries :: after → ∀ result,
        (((start c []).after before).transform entries).2 = .ok result → before = [] := by
      intro before entries after hcalls result hresult
      by_contra hbefore
      obtain ⟨hnone, own, hown, hordered⟩ := returns_after_iff.1 ⟨result, hresult⟩
      obtain ⟨a, ha, b, hb, hab⟩ := hfails before entries after hcalls hbefore hnone own hown
      exact hab (hordered a ha b hb)
    refine ⟨fun before entries after hcalls result hresult => ?_, hfirst⟩
    -- the first call is made on a transformer that is new
    obtain rfl := hfirst before entries after hcalls result hresult
    exact ⟨result, hresult, rfl, rfl⟩
  · intro before entries after hcalls result hresult
    have hsealed := isSealed_transform_iff.2 (.inr ⟨result, hresult⟩)
    exact ⟨(returns_after_iff.1 ⟨result, hresult⟩).1,
      (transform_eq_ok_iff_renewed.1 hresult).2, answers_of_sealed hsealed⟩

end

/-! ## A result behind a failed call -/

namespace Leftover

/-- Two letters. -/
def source : Text := ['a', 'b']

/-- Their context, with a script reader that rejects everything. -/
def context : Context :=
  .ofSettings source (.ofFunction fun _ => .error (.syntaxError ⟨"Unexpected token", 0, ⟨1, 0⟩⟩)) {}
    transformerName

/-- The first letter and an entry that may not stand in a template. -/
def failing : List Markup.Entry := [.text ⟨0, 1, 1, 1⟩, .document []]

/-- The second letter. -/
def next : List Markup.Entry := [.text ⟨1, 2, 1, 2⟩]

/-- The second call returns both letters. -/
theorem run_next : (((start context []).after [failing]).transform next).2.map
    (fun r => r.store.tokens.map (·.raw)) = .ok [['a'], ['b']] := by
  decide +kernel

/-- A new transformer returns one. -/
theorem run_renewed : (((start context []).after [failing]).renewed.transform next).2.map
    (fun r => r.store.tokens.map (·.raw)) = .ok [['b']] := by
  decide +kernel

end Leftover

/-- **A call after a failed one may return**, and what it returns then holds the token that the failed
one left. -/
theorem leftover_not_isolated :
    ¬ Isolated Leftover.context [Leftover.failing, Leftover.next] ∧
      ∃ result own,
        (((start Leftover.context []).after [Leftover.failing]).transform Leftover.next).2 =
          .ok result ∧
        (((start Leftover.context []).after [Leftover.failing]).renewed.transform
          Leftover.next).2 = .ok own ∧
        result.store.tokens.map (·.raw) = [['a'], ['b']] ∧
        own.store.tokens.map (·.raw) = [['b']] := by
  obtain ⟨result, hresult, htokens⟩ := except_map_eq_ok_iff.1 Leftover.run_next
  obtain ⟨own, hown, howntokens⟩ := except_map_eq_ok_iff.1 Leftover.run_renewed
  refine ⟨fun hisolated => ?_, result, own, hresult, hown, htokens, howntokens⟩
  cases hisolated.first [Leftover.failing] Leftover.next [] rfl result hresult

end Template

end SingleFile
