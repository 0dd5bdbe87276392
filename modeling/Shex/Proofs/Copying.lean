import Shex.Proofs.Nodes
import Shex.Proofs.Normalization

/-!
# How a copy is made

What normalization does when it succeeds, in rules. Every node of an expression has operands to be
copied (`Schema.Operands`): the members of a group, the expression under a cardinality as often as
it is written out, the target of a reference. Their copies are joined under a new node, or the only
one of them is passed on (`Normalize.Joins`). `Normalize.Makes S e s f t` says that a copy `f` of
`e` is made in this way from the state `s` to the state `t`. Every form that is not the expression
itself is made so (`TripleExpr.normalize_makes`), and what holds of forms is proved by induction on
these rules.
-/

namespace Shex

namespace Schema

/-- A triple constraint, or a reference to one. -/
inductive IsBare (s : Schema) : TripleExpr → Prop
  | constraint {m : TripleMark} {a : Arc} {v : Option ShapeExpr} : IsBare s (.constraint m a v)
  | ref {m : TripleMark} {l : Label} {e : TripleExpr} (hl : s.tripleExpr? l = some e)
      (he : IsBare s e) : IsBare s (.ref m l)

/-- The repetition of an expression is not written out. -/
def CopiesOnce (s : Schema) (e : TripleExpr) (c : Cardinality) : Prop :=
  s.IsBare e ∨ c = .empty ∨ c.isStandard = true ∨ c = .one

/-- The expressions that are copied for a node that is no triple constraint, in order. -/
inductive Operands (s : Schema) : TripleExpr → List TripleExpr → Prop
  | eachOf {m : TripleMark} {es : List TripleExpr} : Operands s (.eachOf m es) es
  | oneOf {m : TripleMark} {es : List TripleExpr} : Operands s (.oneOf m es) es
  | once {m : TripleMark} {e : TripleExpr} {c : Cardinality} (h : s.CopiesOnce e c) :
      Operands s (.repeated m e c) [e]
  | often {m : TripleMark} {e : TripleExpr} {c : Cardinality} {plain tail : Nat}
      (h : ¬ s.CopiesOnce e c) (hk : Normalize.copies c = (plain, tail)) :
      Operands s (.repeated m e c) (List.replicate (plain + tail) e)
  | ref {m : TripleMark} {l : Label} {e : TripleExpr} (hl : s.tripleExpr? l = some e) :
      Operands s (.ref m l) [e]
  | empty {m : TripleMark} : Operands s (.empty m) []

variable {s : Schema} {e x y : TripleExpr} {es : List TripleExpr} {via : List Label}

/-- What is met in an operand is met in the node, behind one reference more if the node is one. -/
theorem Operands.inside (hops : s.Operands x es) (he : e ∈ es) (h : s.Inside via e y) :
    ∃ via', s.Inside via' x y := by
  cases hops with
  | eachOf => exact ⟨via, .eachOf he h⟩
  | oneOf => exact ⟨via, .oneOf he h⟩
  | once =>
    obtain rfl := List.mem_singleton.1 he
    exact ⟨via, .repeated h⟩
  | often =>
    obtain rfl := List.eq_of_mem_replicate he
    exact ⟨via, .repeated h⟩
  | ref hl =>
    obtain rfl := List.mem_singleton.1 he
    exact ⟨_, .ref hl h⟩
  | empty => exact absurd he List.not_mem_nil

/-- What is met in a node, and is not the node, is met in one of its operands. A repetition that is
written out as no copies has no operands, and it cannot be: at least one copy is always made
(`Normalize.copies_pos`). -/
theorem Operands.of_inside (hops : s.Operands x es) (h : s.Inside via x y) :
    y = x ∨ ∃ e ∈ es, ∃ via', s.Inside via' e y := by
  cases h with
  | self => exact .inl rfl
  | eachOf he h =>
    cases hops
    exact .inr ⟨_, he, _, h⟩
  | oneOf he h =>
    cases hops
    exact .inr ⟨_, he, _, h⟩
  | repeated h =>
    cases hops with
    | once => exact .inr ⟨_, List.mem_singleton_self _, _, h⟩
    | often hc hk =>
      -- A repetition that is written out is made of one copy at least.
      simp only [CopiesOnce, not_or, Bool.not_eq_true] at hc
      have hpos := Normalize.copies_pos hc.2.1 hc.2.2.1
      rw [hk] at hpos
      exact .inr ⟨_, List.mem_replicate.2 ⟨by omega, rfl⟩, _, h⟩
  | ref hl h =>
    cases hops with
    | ref hl' =>
      cases hl.symm.trans hl'
      exact .inr ⟨_, List.mem_singleton_self _, _, h⟩

/-- The operands of a node are determined: a repetition is either written out or not, and how often
is computed from its cardinality. -/
theorem Operands.unique {es' : List TripleExpr} (h : s.Operands x es) (h' : s.Operands x es') :
    es = es' := by
  cases h with
  | eachOf | oneOf | empty =>
    cases h'
    rfl
  | once honce =>
    cases h' with
    | once => rfl
    | often hoften => exact absurd honce hoften
  | often hoften hk =>
    cases h' with
    | once honce => exact absurd honce hoften
    | often _ hk' =>
      cases hk.symm.trans hk'
      rfl
  | ref hl =>
    cases h' with
    | ref hl' => rw [Option.some.inj (hl.symm.trans hl')]

end Schema

/-- The number of nodes that a node counts for when it is copied. A reference is replaced. -/
def TripleExpr.cost : TripleExpr → Nat
  | .ref _ _ => 0
  | _ => 1

namespace Normalizing

/-- The state after a node of the schema is counted. -/
def counted (e : TripleExpr) (s : Normalizing) : Normalizing :=
  { s with remaining := s.remaining - e.cost }

/-- The state after an identity is used. -/
def copied (s : Normalizing) : Normalizing := { s with next := s.next.next }

/-- The state after an expression is recorded as the copy of a node of the schema. -/
def recorded (source : Mark) (e : TripleExpr) (s : Normalizing) : Normalizing :=
  { s with annotated := Annotated.record source e s.annotated }

section
variable (e : TripleExpr) (source : Mark) (s : Normalizing)

/-- Counting a node takes what it costs from the budget. -/
@[simp] theorem counted_remaining : (s.counted e).remaining = s.remaining - e.cost := rfl
/-- Using an identity takes nothing from the budget. -/
@[simp] theorem copied_remaining : s.copied.remaining = s.remaining := rfl
/-- Recording takes nothing from the budget. -/
@[simp] theorem recorded_remaining : (s.recorded source e).remaining = s.remaining := rfl
/-- Recording adds to what is recorded before. -/
@[simp] theorem recorded_annotated :
    (s.recorded source e).annotated = Annotated.record source e s.annotated := rfl

end

end Normalizing

namespace Normalize

open TripleExpr

/-- Each of the expressions is put under a cardinality. -/
inductive Wraps (m : TripleMark) (c : Cardinality) :
    List TripleExpr → Normalizing → List TripleExpr → Normalizing → Prop
  | nil {s : Normalizing} : Wraps m c [] s [] s
  | cons {e : TripleExpr} {es ws : List TripleExpr} {s t : Normalizing}
      (h : Wraps m c es s.copied ws t) :
      Wraps m c (e :: es) s (.repeated (m.copy s.next) e c :: ws) t

/-- The cardinality of the copies that do not stand without one. -/
def innerCardinality (c : Cardinality) (first : TripleExpr) : Cardinality :=
  match c.max with
  | some _ => .optional
  | none => if first.matchesEmpty then .star else .plus

/-- The copies of the operands of a node are joined. -/
inductive Joins (S : Schema) :
    TripleExpr → List TripleExpr → Normalizing → TripleExpr → Normalizing → Prop
  | eachOf {m : TripleMark} {es fs : List TripleExpr} {s : Normalizing} :
      Joins S (.eachOf m es) fs s (.eachOf (m.copy s.next) fs) s.copied
  | oneOf {m : TripleMark} {es fs : List TripleExpr} {s : Normalizing} :
      Joins S (.oneOf m es) fs s (.oneOf (m.copy s.next) fs) s.copied
  | kept {m : TripleMark} {e f : TripleExpr} {c : Cardinality} {s : Normalizing}
      (h : (f.isConstraint || c.isEmpty || c.isStandard) = true) :
      Joins S (.repeated m e c) [f] s
        (.repeated (m.copy s.next) f (if c = .plus && f.matchesEmpty then .star else c)) s.copied
  | dropped {m : TripleMark} {e f : TripleExpr} {s : Normalizing} (h : f.isConstraint = false) :
      Joins S (.repeated m e .one) [f] s f s
  | writtenOut {m : TripleMark} {e f : TripleExpr} {c : Cardinality} {plain tail : Nat}
      {fs ws : List TripleExpr} {s t : Normalizing} (hoften : ¬ S.CopiesOnce e c)
      (hk : copies c = (plain, tail)) (hlen : (f :: fs).length = plain + tail)
      (hws : Wraps m (innerCardinality c f) ((f :: fs).drop plain) s ws t) :
      Joins S (.repeated m e c) (f :: fs) s
        (.eachOf (m.copy t.next) ((f :: fs).take plain ++ ws)) t.copied
  | ref {m : TripleMark} {l : Label} {f : TripleExpr} {s : Normalizing} :
      Joins S (.ref m l) [f] s f s
  | empty {m : TripleMark} {s : Normalizing} :
      Joins S (.empty m) [] s (.empty (m.copy s.next)) s.copied

mutual

/-- A copy of an expression is made. -/
inductive Makes (S : Schema) : TripleExpr → Normalizing → TripleExpr → Normalizing → Prop
  | constraint {m : TripleMark} {a : Arc} {v : Option ShapeExpr} {s : Normalizing}
      (hcost : 1 ≤ s.remaining) :
      Makes S (.constraint m a v) s (.constraint (m.copy s.next) a v)
        ((s.counted (.constraint m a v)).copied.recorded m.source (.constraint (m.copy s.next) a v))
  | node {x f : TripleExpr} {es fs : List TripleExpr} {s t u : Normalizing}
      (hcost : x.cost ≤ s.remaining) (hops : S.Operands x es)
      (hes : MakesAll S es (s.counted x) fs t) (hjoin : Joins S x fs t f u) :
      Makes S x s f (u.recorded x.source f)

/-- Copies of the expressions of a list are made. -/
inductive MakesAll (S : Schema) :
    List TripleExpr → Normalizing → List TripleExpr → Normalizing → Prop
  | nil {s : Normalizing} : MakesAll S [] s [] s
  | cons {e f : TripleExpr} {es fs : List TripleExpr} {s t u : Normalizing}
      (hf : Makes S e s f t) (hfs : MakesAll S es t fs u) : MakesAll S (e :: es) s (f :: fs) u

end

section
variable {S : Schema} {x e f : TripleExpr} {es fs ws : List TripleExpr} {m : TripleMark}
  {c : Cardinality} {s t : Normalizing}

/-! ### What the rules say of copies -/

/-- Wrapping keeps the order and the number of expressions. -/
theorem Wraps.forall₂ (h : Wraps m c es s ws t) :
    List.Forall₂ (fun e w => ∃ m', w = .repeated m' e c) es ws := by
  induction h with
  | nil => exact .nil
  | cons _ ih => exact .cons ⟨_, rfl⟩ ih

/-- Joined copies have the constraints that they have apart. -/
theorem Joins.constraints_eq (h : Joins S x fs s f t) : f.constraints = constraintsIn fs := by
  cases h with
  | eachOf | oneOf => rw [constraints]
  | kept => simp [constraints, constraintsIn]
  | dropped | ref => simp [constraintsIn]
  | @writtenOut _ _ _ _ _ _ _ ws _ _ _ _ _ hws =>
    rw [constraints, constraintsIn_eq_flatMap, List.flatMap_append,
      ← constraintsIn_eq_flatMap ws, constraintsIn_wrapped hws.forall₂, constraintsIn_eq_flatMap,
      ← List.flatMap_append, List.take_append_drop, constraintsIn_eq_flatMap]
  | empty => rfl

/-- There are as many copies as expressions. -/
theorem MakesAll.length_eq : ∀ {es fs : List TripleExpr} {s t : Normalizing},
    MakesAll S es s fs t → fs.length = es.length
  | _, _, _, _, .nil => rfl
  | _, _, _, _, .cons _ hfs => congrArg (· + 1) hfs.length_eq

mutual

/-- The copy of an expression is a triple constraint if the expression is one behind references.
Which repetitions are written out is decided on the first copy, and with this lemma on the
expression. -/
theorem Makes.isConstraint_iff : ∀ {e f : TripleExpr} {s t : Normalizing},
    Makes S e s f t → (f.isConstraint = true ↔ S.IsBare e)
  | _, _, _, _, .constraint _ => iff_of_true rfl .constraint
  | _, _, _, _, .node _ hops hes hjoin => by
    have ih := hes.isConstraint_iff
    cases hjoin with
    | ref =>
      cases hops with
      | ref hl =>
        cases ih with
        | cons hf _ =>
          rw [hf]
          refine ⟨.ref hl, fun h => ?_⟩
          cases h with
          | ref hl' h =>
            cases hl.symm.trans hl'
            exact h
    | dropped h => exact iff_of_false (by simp [h]) nofun
    | eachOf | oneOf | kept | writtenOut | empty => exact iff_of_false Bool.false_ne_true nofun

/-- The same for lists of expressions. -/
theorem MakesAll.isConstraint_iff : ∀ {es fs : List TripleExpr} {s t : Normalizing},
    MakesAll S es s fs t →
      List.Forall₂ (fun e f => f.isConstraint = true ↔ S.IsBare e) es fs
  | _, _, _, _, .nil => .nil
  | _, _, _, _, .cons hf hfs => .cons hf.isConstraint_iff hfs.isConstraint_iff

end

/-! ### Runs make copies -/

/-- The operands of a node are copied, and the copies are joined. -/
def Assembles (S : Schema) (x : TripleExpr) (s : Normalizing) (f : TripleExpr) (t : Normalizing) :
    Prop :=
  ∃ es fs u, S.Operands x es ∧ MakesAll S es s fs u ∧ Joins S x fs u f t

/-- A run that wraps makes what the rules say. -/
theorem wrapAll_wraps (m : TripleMark) (c : Cardinality) :
    ∀ (es : List TripleExpr) (s : Normalizing),
      Meets s (wrapAll m c es) (Wraps m c es s) fun _ => True
  | [], _ => Meets.pure .nil
  | e :: es, s => by
    rw [wrapAll]
    refine Meets.bind (P := fun f t => f = .repeated (m.copy s.next) e c ∧ t = s.copied)
      ⟨rfl, rfl⟩ fun f t h => ?_
    obtain ⟨rfl, rfl⟩ := h
    exact (wrapAll_wraps m c es s.copied).bind fun ws u hws => Meets.pure (.cons hws)

section
variable {make : Normalize TripleExpr}

/-- Further copies are put in front of those made before, the last one first. They are reversed
afterwards, so in the rules they come in the order in which they were made. -/
theorem replicate_makes (hmake : ∀ s, Meets s make (Makes S e s) fun _ => True) :
    ∀ (n : Nat) (acc : List TripleExpr) (s : Normalizing),
      Meets s (replicate make n acc)
        (fun fs t => ∃ gs, fs = gs.reverse ++ acc ∧ MakesAll S (List.replicate n e) s gs t)
        fun _ => True
  | 0, acc, s => Meets.pure ⟨[], rfl, .nil⟩
  | n + 1, acc, s => by
    rw [replicate]
    refine (hmake s).bind fun f t hf => ?_
    refine (replicate_makes hmake n (f :: acc) t).imp fun fs u hcopies => ?_
    obtain ⟨gs, hfs, hgs⟩ := hcopies
    exact ⟨f :: gs, by simp [hfs], .cons hf hgs⟩

/-- A repetition is kept, dropped or written out, as the cardinality and the first copy say.
Written out, it has as many copies as `Normalize.copies` says, and those behind the plain ones are
wrapped. -/
theorem unroll_assembles (hmake : ∀ s, Meets s make (Makes S e s) fun _ => True) (limit : Nat)
    (m : TripleMark) (c : Cardinality) (s : Normalizing) :
    Meets s (unroll limit m make c) (Assembles S (.repeated m e c) s) fun _ => True := by
  unfold unroll
  refine (hmake s).bind fun first t hfirst => ?_
  have hbare := hfirst.isConstraint_iff
  by_cases hkeep : (first.isConstraint || c.isEmpty || c.isStandard) = true
  · rw [if_pos hkeep]
    have honce : S.CopiesOnce e c := by
      rw [Bool.or_assoc, Bool.or_eq_true, Bool.or_eq_true, hbare, Cardinality.isEmpty_iff] at hkeep
      exact hkeep.imp_right fun h => h.imp_right .inl
    exact ⟨_, _, t, .once honce, .cons hfirst .nil, .kept hkeep⟩
  rw [if_neg hkeep]
  simp only [Bool.or_eq_true, hbare, Cardinality.isEmpty_iff, not_or] at hkeep
  obtain ⟨⟨hnot, hne⟩, hstd⟩ := hkeep
  by_cases hone : c = .one
  · rw [if_pos hone]
    subst hone
    refine Meets.pure ⟨_, _, t, .once (.inr (.inr (.inr rfl))), .cons hfirst .nil, .dropped ?_⟩
    simpa using mt hbare.1 hnot
  rw [if_neg hone]
  have hoften : ¬ S.CopiesOnce e c := by
    rintro (h | h | h | h)
    exacts [hnot h, hne h, hstd h, hone h]
  have hpos := copies_pos hne (by simpa using hstd)
  rcases hk : copies c with ⟨plain, tail⟩
  rw [hk] at hpos
  refine Meets.bind (P := fun _ u => u = t) rfl fun n u hu => ?_
  subst hu
  split
  · exact .throw trivial
  refine (replicate_makes hmake _ [first] u).bind fun fs v hcopies => ?_
  obtain ⟨gs, hfs, hgs⟩ := hcopies
  have hpieces : fs.reverse = first :: gs := by simp [hfs]
  have hall : MakesAll S (List.replicate (plain + tail) e) s (first :: gs) v := by
    obtain ⟨n, hn⟩ : ∃ n, plain + tail = n + 1 := ⟨_, (Nat.sub_add_cancel hpos).symm⟩
    rw [hn, Nat.add_sub_cancel] at hgs
    rw [hn, List.replicate_succ]
    exact .cons hfirst hgs
  have hlen : (first :: gs).length = plain + tail := by rw [hall.length_eq, List.length_replicate]
  rw [hpieces]
  refine (wrapAll_wraps m (innerCardinality c first) _ v).bind fun ws w hws => ?_
  exact ⟨_, _, v, .often hoften hk, hall, .writtenOut hoften hk hlen hws⟩

end

section
variable {limit : Nat} {resolve : Label → Normalize TripleExpr}

/-- What a reference is replaced by is a copy of its target. -/
def ResolvesTo (S : Schema) (resolve : Label → Normalize TripleExpr) : Prop :=
  ∀ l s, Meets s (resolve l) (fun f t => ∃ e, S.tripleExpr? l = some e ∧ Makes S e s f t)
    fun _ => True

/-- A run that reserves a node counts one that costs something. References do not reserve: they are
replaced. -/
theorem reserve_counts {x : TripleExpr} (hx : x.cost = 1) (s : Normalizing) :
    Meets s (reserve limit) (fun _ t => x.cost ≤ s.remaining ∧ t = s.counted x) fun _ => True := by
  obtain ⟨next, _ | n, annotated⟩ := s
  · exact trivial
  · exact ⟨hx ▸ Nat.le_add_left 1 n, by simp [Normalizing.counted, hx]⟩

/-- A copy is finished when it is recorded. -/
theorem record_makes {x f : TripleExpr} {es fs : List TripleExpr} {s t u : Normalizing}
    (hcost : x.cost ≤ s.remaining) (hops : S.Operands x es)
    (hes : MakesAll S es (s.counted x) fs t) (hjoin : Joins S x fs t f u) :
    Meets u (do record x.source f; return f) (Makes S x s) fun _ => True :=
  .node hcost hops hes hjoin

mutual

/-- A run that succeeds on an expression makes a copy of it: one case for each kind of node, all of
which end with recording the node. Where a run fails nothing is claimed. -/
theorem expr_makes (hr : ResolvesTo S resolve) :
    ∀ (e : TripleExpr) (s : Normalizing), Meets s (expr limit resolve e) (Makes S e s) fun _ => True
  | .eachOf m es, s => by
    rw [expr]
    refine (reserve_counts (x := .eachOf m es) rfl s).bind fun _ t ⟨hcost, ht⟩ => ?_
    refine (exprs_makes hr es t).bind fun fs u hes => ?_
    exact Meets.bind (P := fun f v => Joins S (.eachOf m es) fs u f v) .eachOf fun f v hjoin =>
      record_makes hcost .eachOf (ht ▸ hes) hjoin
  | .oneOf m es, s => by
    rw [expr]
    refine (reserve_counts (x := .oneOf m es) rfl s).bind fun _ t ⟨hcost, ht⟩ => ?_
    refine (exprs_makes hr es t).bind fun fs u hes => ?_
    exact Meets.bind (P := fun f v => Joins S (.oneOf m es) fs u f v) .oneOf fun f v hjoin =>
      record_makes hcost .oneOf (ht ▸ hes) hjoin
  | .repeated m e c, s => by
    rw [expr]
    refine (reserve_counts (x := .repeated m e c) rfl s).bind fun _ t ⟨hcost, ht⟩ => ?_
    refine (unroll_assembles (expr_makes hr e) limit m c t).bind
      fun f v ⟨es, fs, u, hops, hes, hjoin⟩ => ?_
    exact record_makes hcost hops (ht ▸ hes) hjoin
  | .constraint m a v, s => by
    rw [expr]
    obtain ⟨next, _ | n, annotated⟩ := s
    · exact trivial
    · exact .constraint (Nat.le_add_left 1 n)
  | .ref m l, s => by
    rw [expr]
    refine (hr l s).bind fun f t ⟨e, hl, hf⟩ => ?_
    exact record_makes (x := .ref m l) (Nat.zero_le _) (.ref hl) (.cons hf .nil) .ref
  | .empty m, s => by
    rw [expr]
    refine (reserve_counts (x := .empty m) rfl s).bind fun _ t ⟨hcost, ht⟩ => ?_
    exact Meets.bind (P := fun f u => Joins S (.empty m) [] t f u) .empty fun f u hjoin =>
      record_makes hcost .empty (ht ▸ .nil) hjoin

/-- The same for lists of expressions. -/
theorem exprs_makes (hr : ResolvesTo S resolve) :
    ∀ (es : List TripleExpr) (s : Normalizing),
      Meets s (exprs limit resolve es) (MakesAll S es s) fun _ => True
  | [], _ => by
    rw [exprs]
    exact Meets.pure .nil
  | e :: es, s => by
    rw [exprs]
    exact (expr_makes hr e s).bind fun f t hf =>
      (exprs_makes hr es t).bind fun fs u hfs => Meets.pure (.cons hf hfs)

end

end

/-- A reference is replaced by a copy of its target, by induction on how many labels may still be
entered. -/
theorem resolve_makes (S : Schema) (limit : Nat) :
    ∀ (depth : Nat) (path : List Label), ResolvesTo S (resolve S limit depth path) := by
  intro depth
  induction depth with
  | zero =>
    intro path l s
    rw [resolve.eq_def]
    simp only
    split
    · exact .throw trivial
    · cases S.tripleExpr? l <;> exact .throw trivial
  | succ depth ih =>
    intro path l s
    rw [resolve.eq_def]
    simp only
    split
    · exact .throw trivial
    · cases S.tripleExpr? l with
      | none => exact .throw trivial
      | some e => exact (expr_makes (ih (l :: path)) e s).imp fun f t hf => ⟨e, rfl, hf⟩

end

end Normalize

/-- A form that is not the expression itself is a copy that was made of it. -/
theorem TripleExpr.normalize_makes {S : Schema} {limit : Nat} {fresh : ExprId} {e : TripleExpr}
    {f : Form} (hs : e.isSorbe = false) (h : e.normalize S limit fresh = .ok f) :
    ∃ t, Normalize.Makes S e ⟨fresh, limit, []⟩ f.expr t ∧ f.annotated = t.annotated :=
  exists_of_normalize hs (Normalize.expr_makes (Normalize.resolve_makes S limit _ []) e _) h

end Shex
