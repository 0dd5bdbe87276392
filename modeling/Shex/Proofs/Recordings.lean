import Shex.Proofs.Copying
import Shex.Proofs.Structural

/-!
# What normalization records

If the references of an expression are followed and its repetitions are written out as normalization
does, then each of the constraints of its form is reached by a path of nodes (`Schema.Paths`). On
the way normalization records each node with the constraints that stand for it, inner nodes before
outer ones. `Schema.Attributes` says which recordings these are by recursion on the expression
alone, and `TripleExpr.normalize_attributed` that they are the ones made, for expressions that are
kept as well as for those that are copied.
-/

namespace Shex

open TripleExpr

/-! ### Paths -/

namespace Schema

mutual

/-- The paths from an expression to its triple constraints, one for each constraint of its copy. -/
inductive Paths (s : Schema) : TripleExpr → List (List TripleExpr) → Prop
  | constraint {m : TripleMark} {a : Arc} {v : Option ShapeExpr} :
      Paths s (.constraint m a v) [[.constraint m a v]]
  | node {x : TripleExpr} {es : List TripleExpr} {ps : List (List TripleExpr)}
      (hops : s.Operands x es) (hes : PathsOfAll s es ps) : Paths s x (ps.map (x :: ·))

/-- The paths from the expressions of a list. -/
inductive PathsOfAll (s : Schema) : List TripleExpr → List (List TripleExpr) → Prop
  | nil : PathsOfAll s [] []
  | cons {e : TripleExpr} {es : List TripleExpr} {ps qs : List (List TripleExpr)}
      (he : Paths s e ps) (hes : PathsOfAll s es qs) : PathsOfAll s (e :: es) (ps ++ qs)

end

variable {s : Schema}

mutual

/-- The paths from an expression are determined. -/
theorem Paths.unique : ∀ {x : TripleExpr} {ps qs : List (List TripleExpr)},
    s.Paths x ps → s.Paths x qs → ps = qs
  | _, _, _, .constraint, .constraint => rfl
  | _, _, _, .constraint, .node hops _ => nomatch hops
  | _, _, _, .node hops _, .constraint => nomatch hops
  | _, _, _, .node hops hes, .node hops' hes' => by
    obtain rfl := hops.unique hops'
    rw [hes.unique hes']

/-- The same for the expressions of a list. -/
theorem PathsOfAll.unique : ∀ {es : List TripleExpr} {ps qs : List (List TripleExpr)},
    s.PathsOfAll es ps → s.PathsOfAll es qs → ps = qs
  | _, _, _, .nil, .nil => rfl
  | _, _, _, .cons he hes, .cons he' hes' => by rw [he.unique he', hes.unique hes']

end

end Schema

/-- A constraint is a copy of the one at the end of a path, or that one itself. -/
def TripleConstraint.Ends (c : TripleConstraint) (p : List TripleExpr) : Prop :=
  ∃ m, p.getLast? = some (.constraint m c.arc c.value) ∧ m.source = c.mark.source

/-! ### Recordings -/

/-- The mark of a node of the schema, and the identities of the constraints of a copy of it. -/
abbrev Recording := Mark × List ExprId

/-- Records for a node that some constraints stand for it. -/
def Annotated.tell (as : List Annotated) (r : Recording) : List Annotated :=
  if r.1.actions.isEmpty then as else extend r.1 r.2 as

namespace Schema

mutual

/-- Constraints `cs` stand for an expression in which the nodes `rs` are recorded. -/
inductive Attributes (s : Schema) : TripleExpr → List TripleConstraint → List Recording → Prop
  | constraint {m k : TripleMark} {a : Arc} {v : Option ShapeExpr} (hk : m.source = k.source) :
      Attributes s (.constraint m a v) [⟨k, a, v⟩] [(m.source, [k.id])]
  | node {x : TripleExpr} {es : List TripleExpr} {cs : List TripleConstraint} {rs : List Recording}
      (hops : s.Operands x es) (hes : AttributesAll s es cs rs) :
      Attributes s x cs (rs ++ [(x.source, cs.map TripleConstraint.id)])

/-- Constraints `cs` stand for the expressions of a list. -/
inductive AttributesAll (s : Schema) :
    List TripleExpr → List TripleConstraint → List Recording → Prop
  | nil : AttributesAll s [] [] []
  | cons {e : TripleExpr} {es : List TripleExpr} {cs cs' : List TripleConstraint}
      {rs rs' : List Recording} (he : Attributes s e cs rs) (hes : AttributesAll s es cs' rs') :
      AttributesAll s (e :: es) (cs ++ cs') (rs ++ rs')

end

end Schema

/-! ### What is recorded for copies -/

namespace Normalize

variable {S : Schema} {x f : TripleExpr} {es fs ws : List TripleExpr} {m : TripleMark}
  {c : Cardinality} {s t : Normalizing}

/-- Wrapping records nothing: the cardinality stands for no node of the schema. -/
theorem Wraps.annotated_eq (h : Wraps m c es s ws t) : t.annotated = s.annotated := by
  induction h with
  | nil => rfl
  | cons _ ih => exact ih

/-- Joining records nothing. The node that is joined under is recorded afterwards, for the whole
copy. -/
theorem Joins.annotated_eq (h : Joins S x fs s f t) : t.annotated = s.annotated := by
  cases h with
  | eachOf | oneOf | kept | dropped | ref | empty => rfl
  | writtenOut _ _ _ hws => exact hws.annotated_eq

mutual

/-- The constraints of a copy stand for the expression. -/
theorem Makes.attributes : ∀ {e f : TripleExpr} {s t : Normalizing}, Makes S e s f t →
    ∃ rs, S.Attributes e f.constraints rs ∧ t.annotated = rs.foldl Annotated.tell s.annotated
  | _, _, _, _, .constraint _ => ⟨_, .constraint rfl, rfl⟩
  | x, f, s, _, .node _ hops hes hjoin => by
    obtain ⟨rs, hrs, htold⟩ := hes.attributes
    rw [← hjoin.constraints_eq] at hrs
    refine ⟨_, .node hops hrs, ?_⟩
    rw [List.foldl_append, Normalizing.recorded_annotated, hjoin.annotated_eq, htold]
    rfl

/-- The same for the operands of a node. -/
theorem MakesAll.attributes : ∀ {es fs : List TripleExpr} {s t : Normalizing},
    MakesAll S es s fs t → ∃ rs, S.AttributesAll es (constraintsIn fs) rs ∧
      t.annotated = rs.foldl Annotated.tell s.annotated
  | _, _, _, _, .nil => ⟨[], .nil, rfl⟩
  | _, _, _, _, .cons hf hfs => by
    obtain ⟨rs, hrs, htold⟩ := hf.attributes
    obtain ⟨rs', hrs', htold'⟩ := hfs.attributes
    exact ⟨rs ++ rs', .cons hrs hrs', by rw [List.foldl_append, ← htold, htold']⟩

end

end Normalize

/-! ### What is recorded for expressions that are kept -/

section
variable {S : Schema}

/-- A repetition that can be counted is not written out. -/
theorem Schema.copiesOnce_of_isCountable {m : TripleMark} {e : TripleExpr} {c : Cardinality}
    (h : (TripleExpr.repeated m e c).isCountable = true) : S.CopiesOnce e c := by
  rw [isCountable, Bool.or_eq_true, Bool.and_eq_true, Bool.and_eq_true, Bool.or_eq_true,
    Cardinality.isEmpty_iff] at h
  rcases h with h | ⟨⟨h | h, -⟩, -⟩
  · cases e <;> first | exact .inl .constraint | cases h
  · exact .inr (.inr (.inl h))
  · exact .inr (.inl h)

mutual

/-- The constraints of a countable expression stand for it. What is recorded for an expression that
is kept is then described by the rules for copies: each node stands for itself. -/
theorem TripleExpr.annotate_attributes : ∀ {e : TripleExpr}, e.isCountable = true →
    ∃ rs, S.Attributes e e.constraints rs ∧ ∀ as, e.annotate as = rs.foldl Annotated.tell as
  | .eachOf m es, h => by
    rw [isCountable] at h
    obtain ⟨rs, hrs, htold⟩ := annotateIn_attributes h
    refine ⟨_, .node .eachOf hrs, fun as => ?_⟩
    rw [annotate, htold, List.foldl_append]
    rfl
  | .oneOf m es, h => by
    rw [isCountable] at h
    obtain ⟨rs, hrs, htold⟩ := annotateIn_attributes h
    refine ⟨_, .node .oneOf hrs, fun as => ?_⟩
    rw [annotate, htold, List.foldl_append]
    rfl
  | .repeated m e c, h => by
    have hcount : e.isCountable = true := by
      rw [isCountable, Bool.or_eq_true, Bool.and_eq_true, Bool.and_eq_true] at h
      rcases h with h | h
      · cases e <;> first | rfl | cases h
      · exact h.1.2
    obtain ⟨rs, hrs, htold⟩ := annotate_attributes hcount
    have hall : S.AttributesAll [e] e.constraints rs := by
      have := Schema.AttributesAll.cons hrs .nil
      rwa [List.append_nil, List.append_nil] at this
    refine ⟨_, .node (.once (Schema.copiesOnce_of_isCountable h)) hall, fun as => ?_⟩
    rw [annotate, htold, List.foldl_append]
    rfl
  | .constraint m a v, _ => ⟨_, .constraint rfl, fun _ => rfl⟩
  | .ref m l, h => by simp [isCountable] at h
  | .empty m, _ => ⟨_, .node .empty .nil, fun _ => rfl⟩

/-- The same for the parts of a group or a choice. -/
theorem TripleExpr.annotateIn_attributes : ∀ {es : List TripleExpr}, allCountable es = true →
    ∃ rs, S.AttributesAll es (constraintsIn es) rs ∧
      ∀ as, annotateIn es as = rs.foldl Annotated.tell as
  | [], _ => ⟨[], .nil, fun _ => rfl⟩
  | e :: es, h => by
    rw [allCountable, Bool.and_eq_true] at h
    obtain ⟨rs, hrs, htold⟩ := annotate_attributes h.1
    obtain ⟨rs', hrs', htold'⟩ := annotateIn_attributes h.2
    exact ⟨rs ++ rs', .cons hrs hrs', fun as => by
      rw [annotateIn, htold, htold', List.foldl_append]⟩

end

/-- The constraints of a form stand for the expression, and the table in the form is made of what is
recorded for it. -/
theorem TripleExpr.normalize_attributed {e : TripleExpr} {f : Form} {limit : Nat} {fresh : ExprId}
    (h : e.normalize S limit fresh = .ok f) :
    ∃ rs, S.Attributes e f.constraints rs ∧ f.annotated = rs.foldl Annotated.tell [] := by
  cases hs : e.isSorbe with
  | true =>
    rw [normalize, if_pos hs] at h
    cases h
    rw [isSorbe, Bool.and_eq_true] at hs
    obtain ⟨rs, hrs, htold⟩ := annotate_attributes hs.1
    exact ⟨rs, hrs, htold []⟩
  | false =>
    obtain ⟨t, ht, hann⟩ := normalize_makes hs h
    obtain ⟨rs, hrs, htold⟩ := ht.attributes
    exact ⟨rs, hrs, hann.trans htold⟩

end

end Shex
