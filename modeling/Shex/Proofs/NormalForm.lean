import Shex.Proofs.Copying
import Shex.Proofs.SourceBags

/-!
# Normal forms

The expression of a form is a single-occurrence expression. It is the expression that was normalized
if that is one already. Otherwise all of its nodes are new, each with an identity of its own
(`Normalize.Makes.newNodes`), and the source of each of its triple constraints is met in the
expression (`Form.IsCopyOf`). Normalizing once more changes nothing (`TripleExpr.normalize_sorbe`).
-/

namespace Shex

namespace Normalize

open TripleExpr

/-- The nodes have identities of their own, from `lo` up to `hi`. -/
structure NewNodes (lo hi : Nat) (xs : List TripleExpr) : Prop where
  le : lo ≤ hi
  nodup : (xs.map TripleExpr.id).Nodup
  range : ∀ x ∈ xs, lo ≤ x.id.index ∧ x.id.index < hi

namespace NewNodes

variable {lo mid hi : Nat} {x : TripleExpr} {xs ys : List TripleExpr}

/-- No nodes, no identities used. -/
theorem nil (lo : Nat) : NewNodes lo lo [] := ⟨Nat.le_refl lo, by simp, by simp⟩

/-- A single node with the next identity. -/
theorem singleton (hx : x.id.index = lo) : NewNodes lo (lo + 1) [x] :=
  ⟨Nat.le_succ lo, by simp, by simp [hx]⟩

/-- The order of the nodes does not matter. -/
theorem perm (h : NewNodes lo hi xs) (hp : xs.Perm ys) : NewNodes lo hi ys :=
  ⟨h.le, (hp.map _).nodup_iff.1 h.nodup, fun x hx => h.range x (hp.mem_iff.2 hx)⟩

/-- The identities of two runs of nodes lie one range after the other, so none is shared. The upper
end of the first range is the lower end of the second. -/
theorem append (h : NewNodes lo mid xs) (h' : NewNodes mid hi ys) : NewNodes lo hi (xs ++ ys) := by
  have hle := h.le
  have hle' := h'.le
  refine ⟨Nat.le_trans hle hle', ?_, fun x hx => ?_⟩
  · rw [List.map_append, List.nodup_append]
    refine ⟨h.nodup, h'.nodup, fun i hi j hj hij => ?_⟩
    obtain ⟨x, hx, rfl⟩ := List.mem_map.1 hi
    obtain ⟨y, hy, rfl⟩ := List.mem_map.1 hj
    have hx := (h.range x hx).2
    have hy := (h'.range y hy).1
    rw [hij] at hx
    omega
  · rcases List.mem_append.1 hx with hx | hx
    · have := h.range x hx
      omega
    · have := h'.range x hx
      omega

/-- One more node takes the next identity. -/
theorem cons (h : NewNodes lo hi xs) (hx : x.id.index = hi) : NewNodes lo (hi + 1) (x :: xs) :=
  (h.append (singleton hx)).perm (List.perm_append_singleton x xs)

end NewNodes

section
variable {S : Schema} {x f : TripleExpr} {es fs ws : List TripleExpr} {m : TripleMark}
  {c : Cardinality} {s t : Normalizing} {lo : Nat}

/-- The nodes that are put over expressions are new beside theirs and beside others, `xs`. The
others are any, since for the rest of the list the nodes of its head count as such. -/
theorem Wraps.newNodes (h : Wraps m c es s ws t) :
    ∀ {xs : List TripleExpr}, NewNodes lo s.next.index (nodesIn es ++ xs) →
      NewNodes lo t.next.index (nodesIn ws ++ xs) := by
  induction h with
  | nil => exact id
  | @cons e es ws s t _ ih =>
    intro xs hes
    rw [nodesIn, List.append_assoc] at hes
    have hnew : NewNodes lo s.copied.next.index (.repeated (m.copy s.next) e c :: _) := hes.cons rfl
    generalize hw : TripleExpr.repeated (m.copy s.next) e c = w at hnew ⊢
    -- The new node and what is below it count as other nodes for the rest of the list.
    have hmove : ∀ zs : List TripleExpr,
        (w :: (e.nodes ++ (zs ++ xs))).Perm (zs ++ w :: (e.nodes ++ xs)) := fun zs =>
      ((List.perm_append_comm_assoc e.nodes zs xs).cons w).trans List.perm_middle.symm
    have hrest := (ih (hnew.perm (hmove _))).perm (hmove _).symm
    rw [nodesIn, ← hw, nodes, List.cons_append, List.cons_append, List.append_assoc, hw]
    exact hrest

/-- The node over joined copies is new beside theirs. Only written out copies get more nodes than
this one: those that are put over the last copies. -/
theorem Joins.newNodes (h : Joins S x fs s f t) (hfs : NewNodes lo s.next.index (nodesIn fs)) :
    NewNodes lo t.next.index f.nodes := by
  cases h with
  | eachOf | oneOf => exact hfs.cons rfl
  | kept =>
    rw [nodesIn_singleton] at hfs
    exact hfs.cons rfl
  | dropped | ref => rwa [nodesIn_singleton] at hfs
  | @writtenOut m e f c plain tail fs ws s t _ _ _ hws =>
    rw [← List.take_append_drop plain (f :: fs), nodesIn_append] at hfs
    have hwrapped := hws.newNodes (hfs.perm List.perm_append_comm)
    rw [nodes, nodesIn_append]
    exact (hwrapped.perm List.perm_append_comm).cons rfl
  | empty => exact hfs.cons rfl

mutual

/-- All nodes of a copy are new. -/
theorem Makes.newNodes : ∀ {e f : TripleExpr} {s t : Normalizing},
    Makes S e s f t → NewNodes s.next.index t.next.index f.nodes
  | _, _, _, _, .constraint _ => .singleton rfl
  | _, _, _, _, .node _ _ hes hjoin => hjoin.newNodes hes.newNodes

/-- The same for the copies of operands. -/
theorem MakesAll.newNodes : ∀ {es fs : List TripleExpr} {s t : Normalizing},
    MakesAll S es s fs t → NewNodes s.next.index t.next.index (nodesIn fs)
  | _, _, _, _, .nil => .nil _
  | _, _, _, _, .cons hf hfs => hf.newNodes.append hfs.newNodes

end

end

end Normalize

/-- All nodes of the form were made for it, and its triple constraints are copies of constraints
that are met in the expression. -/
structure Form.IsCopyOf (S : Schema) (e : TripleExpr) (fresh : ExprId) (f : Form) : Prop where
  fresh : ∀ x ∈ f.expr.nodes, fresh.index ≤ x.id.index
  unmet : ∀ x ∈ f.expr.nodes, ∀ via y, S.Inside via e y → x.id ≠ y.id
  nodup : (f.expr.nodes.map TripleExpr.id).Nodup
  sources : ∀ c ∈ f.constraints, ∃ via m,
    S.Inside via e (.constraint m c.arc c.value) ∧ m.toMark = c.mark.source

namespace TripleExpr

variable {S : Schema} {e : TripleExpr} {f : Form} {limit : Nat} {fresh : ExprId}

/-- A form that is not the expression itself is made of copies of constraints that are met in the
expression. -/
theorem normalize_copies (hs : e.isSorbe = false) (h : e.normalize S limit fresh = .ok f) :
    ∃ hi, Normalize.Copies (S.HasSource e) (S.AvoidsEmpty e) fresh.index hi [f.expr] := by
  -- Any reading of the constraints will do here.
  let nothing : AtomLanguage Unit := fun _ _ _ => ∅
  obtain ⟨t, ht⟩ := normalize_copied nothing (by simp [nothing]) (by simp [nothing]) hs h
  exact ⟨t.next.index, ht.copies⟩

/-- The expression of a form is a single-occurrence expression: the given one, if it was, or else a
copy in which all constraints got identities of their own. -/
theorem isSorbe_of_normalize (h : e.normalize S limit fresh = .ok f) : f.expr.isSorbe = true := by
  cases hs : e.isSorbe with
  | true =>
    rw [normalize, if_pos hs] at h
    cases h
    exact hs
  | false =>
    obtain ⟨hi, hcopies⟩ := normalize_copies hs h
    have hcount := hcopies.countable
    have hnodup := hcopies.nodup
    simp only [allCountable, constraintsIn, Bool.and_true, List.append_nil] at hcount hnodup
    rw [isSorbe, hcount, constraintIds, decide_eq_true hnodup]
    rfl

/-- An expression that has to be rewritten is copied. Its nodes have new identities, from `fresh`
on, and its constraints are copies of those that are met in the expression, whose sources they
keep. -/
theorem normalize_isCopyOf (hS : S.isWritten = true) (he : e.isWritten = true)
    (hfresh : S.IsUnused e fresh) (hs : e.isSorbe = false)
    (h : e.normalize S limit fresh = .ok f) : f.IsCopyOf S e fresh := by
  obtain ⟨t, hmakes, -⟩ := normalize_makes hs h
  have hnew : Normalize.NewNodes fresh.index t.next.index f.expr.nodes := hmakes.newNodes
  refine ⟨fun x hx => (hnew.range x hx).1, fun x hx via y hy hid => ?_, hnew.nodup, fun c hc => ?_⟩
  · have hx := (hnew.range x hx).1
    have hy := hfresh via y hy
    rw [hid] at hx
    omega
  · obtain ⟨hi, hcopies⟩ := normalize_copies hs h
    obtain ⟨via, m, hm, hsource⟩ := hcopies.sources c (by
      simpa [constraintsIn, Form.constraints] using hc)
    exact ⟨via, m, hm, (isWritten_source (hm.isWritten hS he)).symm.trans hsource⟩

/-- What is normalized is a single-occurrence expression, and it is kept if it was one before. If
not, all of it is copied, and every triple constraint has what its source has, which is met in the
expression. To normalize a form again changes nothing, under any schema and limit. The constraints
of a form, the search for one and the predicates are those of its expression. -/
theorem normalize_sorbe (hS : S.isWritten = true) (he : e.isWritten = true)
    (hfresh : S.IsUnused e fresh) (h : e.normalize S limit fresh = .ok f) :
    f.expr.isSorbe = true ∧
      (f.expr = e ↔ e.isSorbe = true) ∧ (f.expr.id = e.id ↔ e.isSorbe = true) ∧
      (e.isSorbe = false → f.IsCopyOf S e fresh) ∧
      (∀ S' limit' fresh', ∃ f', f.expr.normalize S' limit' fresh' = .ok f' ∧ f'.expr = f.expr) ∧
      f.constraints.map TripleConstraint.node = f.expr.nodes.filter isConstraint ∧
      (∀ id c, f.constraint? id = some c ↔ c ∈ f.constraints ∧ c.id = id) ∧
      ∀ inverse p, p ∈ f.predicates inverse ↔ ∃ c ∈ f.constraints, c.arc = ⟨p, inverse⟩ := by
  have hsorbe := isSorbe_of_normalize h
  have hkept : e.isSorbe = true → f.expr = e := fun hs => by
    rw [normalize, if_pos hs] at h
    cases h
    rfl
  have hcopied : e.isSorbe = false → f.IsCopyOf S e fresh := fun hs =>
    normalize_isCopyOf hS he hfresh hs h
  have hnew : f.expr.id = e.id → e.isSorbe = true := fun hid => by
    by_contra hs
    exact (hcopied (by simpa using hs)).unmet _ f.expr.self_mem_nodes [] e (.self e) hid
  refine ⟨hsorbe, ⟨fun heq => hnew (congrArg id heq), hkept⟩,
    ⟨hnew, fun hs => congrArg id (hkept hs)⟩, hcopied, fun S' limit' fresh' => ?_,
    map_node_constraints _, fun id c => ?_, fun inverse p => Form.mem_predicates⟩
  · exact ⟨.ofSorbe f.expr, by rw [normalize, if_pos hsorbe], rfl⟩
  · rw [isSorbe, Bool.and_eq_true, decide_eq_true_iff] at hsorbe
    exact Form.constraint?_eq_some_iff hsorbe.2

/-- The form of `nestedRepetition` is a copy: one node stands for both `p .`, so the expression is
no single-occurrence expression itself. -/
theorem nestedRepetition_normalForm :
    nestedRepetition.isSorbe = false ∧
      ∃ f, nestedRepetition.normalize choiceSchema 40 ⟨20⟩ = .ok f ∧ f.expr.isSorbe = true ∧
        f.expr ≠ nestedRepetition ∧ f.IsCopyOf choiceSchema nestedRepetition ⟨20⟩ := by
  have hs : nestedRepetition.isSorbe = false := by decide +kernel
  obtain ⟨f, hf, -⟩ := @exists_form choiceSchema _ nestedRepetition 40 ⟨20⟩ (·.constraints.length)
    11 (by decide +kernel)
  have hnormal := normalize_sorbe (by decide +kernel) (by decide +kernel)
    (Schema.isUnused_of_all (by decide +kernel)) hf
  exact ⟨hs, f, hf, hnormal.1, fun heq => by simp [hnormal.2.1.1 heq] at hs, hnormal.2.2.2.1 hs⟩

end TripleExpr

end Shex
