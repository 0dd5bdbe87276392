import Shex.Proofs.Normalization

/-!
# The limit of normalization does not matter

Normalization looks at its limit only to see whether nodes are left. A run under a smaller limit
is therefore approximated by one under a greater limit, step for step (`Normalize.Approximates`),
and where it gives a form the other one gives the same form (`TripleExpr.normalize_mono`).
-/

namespace Shex

namespace Normalize

/-- Where the first computation gives a result, the second gives the same if `k` more nodes may be
copied, and as many more are left. -/
def Approximates {α : Type} (k : Nat) (x y : Normalize α) : Prop :=
  ∀ s a t, x.run s = .ok (a, t) →
    y.run { s with remaining := s.remaining + k } = .ok (a, { t with remaining := t.remaining + k })

namespace Approximates

variable {α β : Type} {k : Nat}

/-- A result on the spot takes nothing from the budget. -/
protected theorem pure (a : α) : Approximates k (pure a) (pure a) := by
  rintro s _ _ ⟨⟩
  rfl

/-- A fault is no result. -/
theorem throw_left {e : ValidationFault} {y : Normalize α} : Approximates k (throw e) y :=
  fun _ _ _ h => nomatch h

/-- What the first computation leaves of the budget, the second goes on with. -/
protected theorem bind {x y : Normalize α} {f g : α → Normalize β} (hxy : Approximates k x y)
    (hfg : ∀ a, Approximates k (f a) (g a)) : Approximates k (x >>= f) (y >>= g) := by
  intro s b u h
  rw [StateT.run_bind] at h ⊢
  rcases hr : x.run s with e | ⟨a, t⟩
  · rw [hr] at h
    cases h
  · rw [hr] at h
    rw [hxy s a t hr]
    exact hfg a t b u h

/-- A node that can be taken from a budget can be taken from a larger one. Only here, and in
`guard`, the budget is looked at; the limits that the faults would name may differ. -/
theorem reserve (limit limit' : Nat) : Approximates k (reserve limit) (reserve limit') := by
  rintro ⟨next, _ | n, as⟩ _ _ h
  · cases h
  · cases h
    change Normalize.reserve limit' ⟨next, n + 1 + k, as⟩ = _
    rw [Nat.add_right_comm]
    rfl

/-- A copy does not look at the budget. -/
theorem copy (m : TripleMark) (make : TripleMark → TripleExpr) :
    Approximates k (copy m make) (copy m make) := by
  rintro s _ _ ⟨⟩
  rfl

/-- A recording does not look at the budget. -/
theorem record (source : Mark) (e : TripleExpr) :
    Approximates k (record source e) (record source e) := by
  rintro s _ _ ⟨⟩
  rfl

/-- A computation that goes on only if enough nodes may still be copied. -/
theorem guard {x y : Normalize α} (h : Approximates k x y) (n limit limit' : Nat) :
    Approximates k (do if (← get).remaining < n then throw (.limit (.expansion limit)) else x)
      (do if (← get).remaining < n then throw (.limit (.expansion limit')) else y) := by
  intro s a t hx
  rw [StateT.run_bind] at hx ⊢
  change StateT.run (if s.remaining < n then _ else _) s = _ at hx
  change StateT.run (if s.remaining + k < n then _ else _) _ = _
  split at hx
  · cases hx
  · rw [if_neg (by omega)]
    exact h s a t hx

/-- As many copies, by induction on their number. -/
theorem replicate {x y : Normalize TripleExpr} (h : Approximates k x y) :
    ∀ (n : Nat) (acc : List TripleExpr), Approximates k (replicate x n acc) (replicate y n acc)
  | 0, acc => .pure acc
  | n + 1, acc => h.bind fun e => replicate h n (e :: acc)

/-- As many wrapped copies, by induction on the list. -/
theorem wrapAll (m : TripleMark) (c : Cardinality) (es : List TripleExpr) :
    Approximates k (wrapAll m c es) (wrapAll m c es) := by
  induction es with
  | nil => exact .pure []
  | cons _ es ih => exact (copy m _).bind fun _ => ih.bind fun _ => .pure _

/-- A repetition is kept or written out by its cardinality and its first copy, and not by the
limit. -/
theorem unroll {x y : Normalize TripleExpr} (h : Approximates k x y) (limit limit' : Nat)
    (m : TripleMark) (c : Cardinality) :
    Approximates k (unroll limit m x c) (unroll limit' m y c) := by
  unfold Normalize.unroll
  refine h.bind fun first => ?_
  split
  · exact copy m _
  split
  · exact .pure first
  generalize copies c = n
  obtain ⟨plain, tail⟩ := n
  exact guard ((h.replicate _ _).bind fun fs => (wrapAll m _ _).bind fun ws => copy m _) _ _ _

section
variable {limit limit' : Nat} {resolve resolve' : Label → Normalize TripleExpr}

mutual

/-- Every node of an expression, given references that are resolved under both limits. The cases
differ in what is made, and in none of them does the limit decide anything but whether there is a
fault. -/
theorem expr (hr : ∀ l, Approximates k (resolve l) (resolve' l)) :
    ∀ e : TripleExpr, Approximates k (expr limit resolve e) (expr limit' resolve' e)
  | .eachOf m es => by
    rw [Normalize.expr, Normalize.expr]
    exact (reserve _ _).bind fun _ => (exprs hr es).bind fun _ => (copy m _).bind fun _ =>
      (record _ _).bind fun _ => .pure _
  | .oneOf m es => by
    rw [Normalize.expr, Normalize.expr]
    exact (reserve _ _).bind fun _ => (exprs hr es).bind fun _ => (copy m _).bind fun _ =>
      (record _ _).bind fun _ => .pure _
  | .repeated m e c => by
    rw [Normalize.expr, Normalize.expr]
    exact (reserve _ _).bind fun _ => ((expr hr e).unroll _ _ m c).bind fun _ =>
      (record _ _).bind fun _ => .pure _
  | .constraint m a v => by
    rw [Normalize.expr, Normalize.expr]
    exact (reserve _ _).bind fun _ => (copy m _).bind fun _ => (record _ _).bind fun _ => .pure _
  | .ref m l => by
    rw [Normalize.expr, Normalize.expr]
    exact (hr l).bind fun _ => (record _ _).bind fun _ => .pure _
  | .empty m => by
    rw [Normalize.expr, Normalize.expr]
    exact (reserve _ _).bind fun _ => (copy m _).bind fun _ => (record _ _).bind fun _ => .pure _

/-- The same for lists of expressions. -/
theorem exprs (hr : ∀ l, Approximates k (resolve l) (resolve' l)) :
    ∀ es : List TripleExpr, Approximates k (exprs limit resolve es) (exprs limit' resolve' es)
  | [] => by
    rw [Normalize.exprs, Normalize.exprs]
    exact .pure []
  | e :: es => by
    rw [Normalize.exprs, Normalize.exprs]
    exact (expr hr e).bind fun _ => (exprs hr es).bind fun _ => .pure _

end

end

/-- References, by induction on how many labels may still be entered. -/
theorem resolve (S : Schema) (limit limit' : Nat) :
    ∀ (depth : Nat) (path : List Label) (l : Label),
      Approximates k (resolve S limit depth path l) (resolve S limit' depth path l) := by
  intro depth
  induction depth with
  | zero =>
    intro path l
    rw [resolve.eq_def]
    simp only
    split
    · exact throw_left
    · cases S.tripleExpr? l <;> exact throw_left
  | succ depth ih =>
    intro path l
    rw [resolve.eq_def, resolve.eq_def S limit']
    simp only
    split
    · exact throw_left
    · cases S.tripleExpr? l with
      | none => exact throw_left
      | some e => exact expr (fun l' => ih (l :: path) l') e

end Approximates

end Normalize

namespace TripleExpr

variable {S : Schema} {e : TripleExpr} {limit limit' : Nat} {fresh : ExprId} {f f' : Form}

/-- A form that keeps a limit is the form under every greater limit. What is kept as it stands needs
no limit; what is copied is copied step for step, with as many nodes to spare. -/
theorem normalize_mono (hle : limit ≤ limit') (h : e.normalize S limit fresh = .ok f) :
    e.normalize S limit' fresh = .ok f := by
  obtain ⟨k, rfl⟩ := Nat.exists_eq_add_of_le hle
  unfold normalize at h ⊢
  by_cases hs : e.isSorbe
  · rwa [if_pos hs] at h ⊢
  rw [if_neg hs] at h ⊢
  rcases hx : StateT.run (Normalize.expr limit (Normalize.resolve S limit S.tripleExprs.size []) e)
    ⟨fresh, limit, []⟩ with fault | ⟨g, t⟩
  · rw [hx] at h
    cases h
  rw [hx] at h
  have hmore := @Normalize.Approximates.expr k limit (limit + k) _ _
    (fun l => Normalize.Approximates.resolve S limit (limit + k) _ _ l) e ⟨fresh, limit, []⟩ g t hx
  rw [hmore]
  exact h

/-- The form of an expression is the same under every limit under which there is one. -/
theorem normalize_limit (h : e.normalize S limit fresh = .ok f)
    (h' : e.normalize S limit' fresh = .ok f') : f = f' :=
  Except.ok.inj ((normalize_mono (Nat.le_max_left limit limit') h).symm.trans
    (normalize_mono (Nat.le_max_right limit limit') h'))

end TripleExpr

end Shex
