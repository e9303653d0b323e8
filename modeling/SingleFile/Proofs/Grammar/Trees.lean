import SingleFile.Grammar

/-!
# Concrete trees — walks, and spans that nest

`Cst.walk` lists a node with everything below it. Trees are taken as they
come; `Cst.SpansNest` is what a grammar that reads its text from left to
right keeps: no node ends before it starts, a node holds its children, and
these follow one another.
-/

namespace SingleFile

namespace Cst

mutual
/-- A node and all nodes below it. -/
def walk : Cst → List Cst
  | ⟨kind, startByte, stopByte, isNamed, isMissing, hasError, children⟩ =>
    ⟨kind, startByte, stopByte, isNamed, isMissing, hasError, children⟩ :: walkAll children

/-- Several nodes and all nodes below them. -/
def walkAll : List Cst → List Cst
  | [] => []
  | c :: cs => c.walk ++ walkAll cs
end

/-- A node is the first of those at and below it. -/
theorem walk_eq (c : Cst) : c.walk = c :: walkAll c.children := by
  cases c
  rw [walk]

/-- What is below one of some nodes is below them. -/
theorem mem_walkAll {c d : Cst} {cs : List Cst} (hc : c ∈ cs) (hd : d ∈ c.walk) :
    d ∈ walkAll cs := by
  induction cs with
  | nil => cases hc
  | cons e cs ih =>
    rw [walkAll, List.mem_append]
    rcases List.mem_cons.1 hc with rfl | hmem
    · exact .inl hd
    · exact .inr (ih hmem)

/-- A node is at or below itself. -/
theorem mem_walk_self (c : Cst) : c ∈ c.walk := by
  rw [walk_eq]
  exact List.mem_cons_self

/-- What is at or below a child of a node is below the node. -/
theorem mem_walk_of_mem_child {c d e : Cst} (hd : d ∈ c.children) (he : e ∈ d.walk) :
    e ∈ c.walk := by
  rw [walk_eq]
  exact List.mem_cons_of_mem _ (mem_walkAll hd he)

mutual
/-- The children of a node below a root are below it. -/
theorem mem_walk_of_child : ∀ {root c d : Cst}, c ∈ root.walk → d ∈ c.children → d ∈ root.walk
  | ⟨kind, startByte, stopByte, isNamed, isMissing, hasError, children⟩, c, d, hc, hd => by
    rw [walk] at hc ⊢
    refine List.mem_cons_of_mem _ ?_
    rcases List.mem_cons.1 hc with rfl | hmem
    · exact mem_walkAll hd d.mem_walk_self
    · exact mem_walkAll_of_child hmem hd

/-- And so for several roots. -/
theorem mem_walkAll_of_child : ∀ {roots : List Cst} {c d : Cst}, c ∈ walkAll roots →
    d ∈ c.children → d ∈ walkAll roots
  | [], _, _, hc, _ => absurd hc List.not_mem_nil
  | root :: roots, c, d, hc, hd => by
    rw [walkAll, List.mem_append] at hc ⊢
    exact hc.imp (mem_walk_of_child · hd) (mem_walkAll_of_child · hd)
end

/-- **A statement about nodes** holds of every node when it passes on from the children of a node to
the node. -/
theorem induction_children {P : Cst → Prop} (h : ∀ c, (∀ d ∈ c.children, P d) → P c) :
    ∀ c, P c
  | ⟨kind, startByte, stopByte, isNamed, isMissing, hasError, children⟩ =>
    h _ fun d _ => induction_children h d
termination_by c => sizeOf c
decreasing_by
  rename_i hd
  have hlt : sizeOf d < sizeOf children := List.sizeOf_lt_of_mem hd
  simp only [Cst.mk.sizeOf_spec]
  omega

/-! ## Spans -/

/-- **A tree whose spans nest**: every node ends after it starts, and its children lie inside it,
one after the other. -/
structure SpansNest (root : Cst) : Prop where
  ordered : ∀ c ∈ root.walk, c.startByte ≤ c.stopByte
  inside : ∀ c ∈ root.walk, ∀ d ∈ c.children, c.startByte ≤ d.startByte ∧ d.stopByte ≤ c.stopByte
  siblings : ∀ c ∈ root.walk, c.children.Pairwise fun a b => a.stopByte ≤ b.startByte

/-- So is the tree of a child. -/
theorem SpansNest.child {root c : Cst} (h : root.SpansNest) (hc : c ∈ root.children) :
    c.SpansNest := by
  have hsub : ∀ d ∈ c.walk, d ∈ root.walk := fun d hd => mem_walk_of_mem_child hc hd
  exact ⟨fun d hd => h.ordered d (hsub d hd), fun d hd => h.inside d (hsub d hd),
    fun d hd => h.siblings d (hsub d hd)⟩

end Cst

end SingleFile
