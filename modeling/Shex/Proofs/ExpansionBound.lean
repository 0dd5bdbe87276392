import Shex.Proofs.Copying

/-!
# The size of copies

The limit of normalization counts the nodes of the schema each time they are copied. What is written
out of a repetition has one more node for every copy that stands under a cardinality of its own, and
these are not counted. So a copy has less than twice as many nodes as the limit admits, and it keeps
the limit if no copies stand under a cardinality of their own (`TripleExpr.normalize_size`). It does
not keep the limit in general (`TripleExpr.optionalPair_exceeds`).
-/

namespace Shex

namespace Normalize

open TripleExpr

variable {S : Schema} {x f : TripleExpr} {es fs ws : List TripleExpr} {m : TripleMark}
  {c : Cardinality} {s t : Normalizing}

/-- Wrapping takes nothing from the budget: the nodes that are put over copies are not counted. -/
theorem Wraps.remaining_eq (h : Wraps m c es s ws t) : t.remaining = s.remaining := by
  induction h with
  | nil => rfl
  | cons _ ih => exact ih

/-- Joining takes nothing from the budget either. The node that is joined under was counted
before. -/
theorem Joins.remaining_eq (h : Joins S x fs s f t) : t.remaining = s.remaining := by
  cases h with
  | eachOf | oneOf | kept | dropped | ref | empty => rfl
  | writtenOut _ _ _ hws => exact hws.remaining_eq

/-- Every expression that is put under a cardinality has one more node. -/
theorem Wraps.length_nodesIn (h : Wraps m c es s ws t) :
    (nodesIn ws).length = (nodesIn es).length + es.length := by
  induction h with
  | nil => rfl
  | cons _ ih =>
    simp only [nodesIn, nodes, List.length_append, List.length_cons, ih]
    omega

/-- The nodes of a group that is written out. -/
theorem size_writtenOut {plain tail : Nat} (hlen : fs.length = plain + tail)
    (hws : Wraps m c (fs.drop plain) s ws t) (m' : TripleMark) :
    (TripleExpr.eachOf m' (fs.take plain ++ ws)).size = (nodesIn fs).length + tail + 1 := by
  have hsplit := congrArg (fun l => (nodesIn l).length) (List.take_append_drop plain fs)
  simp only [nodesIn_append, List.length_append] at hsplit
  rw [size, nodes, nodesIn_append, List.length_cons, List.length_append, hws.length_nodesIn,
    List.length_drop]
  omega

/-- Joining adds a node for each of the copies at most, beside one that is counted. The nodes that
it adds for copies are the cardinalities of those that do not stand plain. -/
theorem Joins.size_le (h : Joins S x fs s f t) :
    f.size + 1 ≤ (nodesIn fs).length + fs.length + 2 * x.cost := by
  cases h with
  | eachOf | oneOf =>
    simp only [size, nodes, cost, List.length_cons]
    omega
  | kept | dropped | ref =>
    simp only [size, nodes, cost, nodesIn_singleton, List.length_cons, List.length_nil]
    omega
  | writtenOut _ _ hlen hws =>
    simp only [size_writtenOut hlen hws, cost]
    omega
  | empty => exact Nat.le_refl 2

mutual

/-- A copy has less than twice as many nodes as were counted, by induction on the rules: each copy
of an operand brings at most one node more, and it has at least one counted node itself. -/
theorem Makes.size_lt : ∀ {e f : TripleExpr} {s t : Normalizing}, Makes S e s f t →
    f.size + 1 + 2 * t.remaining ≤ 2 * s.remaining
  | _, _, s, _, .constraint hcost => by
    simp only [size, nodes, cost, List.length_singleton, Normalizing.recorded_remaining,
      Normalizing.copied_remaining, Normalizing.counted_remaining]
    omega
  | x, _, s, _, .node hcost _ hes hjoin => by
    have hall := hes.size_lt
    have hjoined := hjoin.size_le
    rw [Normalizing.counted_remaining] at hall
    rw [Normalizing.recorded_remaining, hjoin.remaining_eq]
    omega

/-- The same for the copies of operands: of two nodes of a copy at least one was counted. -/
theorem MakesAll.size_lt : ∀ {es fs : List TripleExpr} {s t : Normalizing}, MakesAll S es s fs t →
    (nodesIn fs).length + fs.length + 2 * t.remaining ≤ 2 * s.remaining
  | _, _, s, _, .nil => Nat.le_of_eq (Nat.zero_add _)
  | _, _, _, _, .cons hf hfs => by
    have hsize := hf.size_lt
    have hrest := hfs.size_lt
    rw [size] at hsize
    rw [nodesIn, List.length_append, List.length_cons]
    omega

end

/-- When a node is copied, no copies are put under a cardinality of their own. -/
def WrapsNothing (S : Schema) (x : TripleExpr) : Prop :=
  ∀ m e c, x = .repeated m e c → S.CopiesOnce e c ∨ c.max = some c.min

/-- Joining adds the node that is counted and no other, if no copy is put under a cardinality of its
own. -/
theorem Joins.size_le_of_wrapsNothing (h : Joins S x fs s f t) (hx : WrapsNothing S x) :
    f.size ≤ (nodesIn fs).length + x.cost := by
  cases h with
  | eachOf | oneOf => exact Nat.le_refl _
  | kept | dropped | ref =>
    simp only [size, nodes, cost, nodesIn_singleton, List.length_cons]
    omega
  | writtenOut hoften hk hlen hws =>
    have hmax := (hx _ _ _ rfl).resolve_left hoften
    rw [copies, hmax] at hk
    obtain rfl : 0 = _ := by simpa using congrArg Prod.snd hk
    simp only [size_writtenOut hlen hws, cost]
    omega
  | empty => exact Nat.le_refl 1

mutual

/-- A copy has the nodes that were counted, if nothing in it is wrapped. So under this condition the
limit bounds the nodes of the form themselves. -/
theorem Makes.size_le_of_wrapsNothing : ∀ {e f : TripleExpr} {s t : Normalizing},
    Makes S e s f t → (∀ via x, S.Inside via e x → WrapsNothing S x) →
      f.size + t.remaining ≤ s.remaining
  | _, _, s, _, .constraint hcost, _ => by
    simp only [size, nodes, cost, List.length_singleton, Normalizing.recorded_remaining,
      Normalizing.copied_remaining, Normalizing.counted_remaining]
    omega
  | x, _, s, _, .node hcost hops hes hjoin, h => by
    have hall := hes.size_le_of_wrapsNothing fun e he via y hy =>
      let ⟨via', hy'⟩ := hops.inside he hy
      h via' y hy'
    have hjoined := hjoin.size_le_of_wrapsNothing (h [] x (.self x))
    rw [Normalizing.counted_remaining] at hall
    rw [Normalizing.recorded_remaining, hjoin.remaining_eq]
    omega

/-- The same for the copies of operands. -/
theorem MakesAll.size_le_of_wrapsNothing : ∀ {es fs : List TripleExpr} {s t : Normalizing},
    MakesAll S es s fs t → (∀ e ∈ es, ∀ via x, S.Inside via e x → WrapsNothing S x) →
      (nodesIn fs).length + t.remaining ≤ s.remaining
  | _, _, s, _, .nil, _ => Nat.le_of_eq (Nat.zero_add _)
  | _, _, _, _, .cons hf hfs, h => by
    have hsize := hf.size_le_of_wrapsNothing (h _ List.mem_cons_self)
    have hrest := hfs.size_le_of_wrapsNothing fun e he => h e (List.mem_cons_of_mem _ he)
    rw [size] at hsize
    rw [nodesIn, List.length_append]
    omega

end

end Normalize

namespace TripleExpr

variable {S : Schema} {e : TripleExpr} {f : Form} {limit : Nat} {fresh : ExprId}

/-- A form that is not the expression itself has less than twice as many nodes as the limit. It has
no more than the limit if every repetition that is written out has one count. -/
theorem normalize_size (hs : e.isSorbe = false) (h : e.normalize S limit fresh = .ok f) :
    f.expr.size < 2 * limit ∧
      ((∀ via m x c, S.Inside via e (.repeated m x c) → S.CopiesOnce x c ∨ c.max = some c.min) →
        f.expr.size ≤ limit) := by
  obtain ⟨t, ht, -⟩ := normalize_makes hs h
  constructor
  · have hsize : f.expr.size + 1 + 2 * t.remaining ≤ 2 * limit := ht.size_lt
    omega
  · intro hexact
    have hsize : f.expr.size + t.remaining ≤ limit := ht.size_le_of_wrapsNothing
      fun via y hy m x c hyx => hexact via m x c (hyx ▸ hy)
    omega

/-! ### Examples -/

/-- `( p . ; q . )`, repeated. -/
def pairRepeated (c : Cardinality) : TripleExpr :=
  .repeated (.written ⟨⟨0⟩, []⟩)
    (.eachOf (.written ⟨⟨1⟩, []⟩)
      [.constraint (.written ⟨⟨2⟩, []⟩) ⟨⟨"p"⟩, false⟩ none,
        .constraint (.written ⟨⟨3⟩, []⟩) ⟨⟨"q"⟩, false⟩ none])
    c

/-- Two copies of the group are made for `( p . ; q . ){2}`, with a node over them. -/
theorem twoPairs_size :
    ∃ f, (pairRepeated (.exactly 2)).normalize .empty 7 ⟨4⟩ = .ok f ∧ f.expr.size ≤ 7 := by
  obtain ⟨f, hf, -⟩ := @exists_form .empty _ (pairRepeated (.exactly 2)) 7 ⟨4⟩
    (·.constraints.length) 4 (by decide +kernel)
  refine ⟨f, hf, (normalize_size (by decide +kernel) hf).2 fun via m x c hx => .inr ?_⟩
  rcases hx.mem_nodes with hmem | ⟨l, t, hl, -⟩
  · simp only [pairRepeated, nodes, nodesIn, List.append_nil, List.cons_append, List.nil_append,
      List.mem_cons, List.not_mem_nil, reduceCtorEq, or_false, repeated.injEq] at hmem
    rw [hmem.2.2]
    rfl
  · cases hl

/-- Seven nodes are counted for `( p . ; q . ){0,2}`, but there are nine of them, because both
copies of the group are put under `?`. -/
theorem optionalPair_exceeds :
    (pairRepeated (.ofBounds 0 (some 2))).isSorbe = false ∧
      ∃ f, (pairRepeated (.ofBounds 0 (some 2))).normalize .empty 7 ⟨4⟩ = .ok f ∧
        f.expr.size = 9 := by
  exact ⟨by decide +kernel, exists_form (by decide +kernel)⟩

end TripleExpr

end Shex
