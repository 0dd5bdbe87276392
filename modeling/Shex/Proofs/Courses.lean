import Mathlib.Algebra.Group.Nat.Even
import Shex.Proofs.Extension
import Shex.Proofs.Neighbourhoods
import Shex.Validation.Evaluate

/-!
# Courses of evaluation

A position is something that a run evaluates: whether a node satisfies an expression or the
declaration of a label. Evaluation at a position asks for other positions (`Setting.Asks`), and a
course leads from one position to another (`Setting.Course`). In a schema with stratified negation,
a course from the declaration of a label back to the label passes an even number of negations and
extra predicates (`Setting.Course.even_flips`).
-/

namespace Shex

open Relation

/-- What a run evaluates at one moment. -/
inductive Position where
  /-- Whether a node satisfies an expression. -/
  | expr (scope : Scope) (node : Term) (e : ShapeExpr)
  /-- Whether a node satisfies the declaration of a label. -/
  | label (scope : Scope) (node : Term) (l : Label)
  /-- The same for a label that is not abstract, once the pair is active. -/
  | entered (scope : Scope) (node : Term) (l : Label)

/-- How one position leads to another. -/
inductive Step where
  /-- From a negation to what is negated. -/
  | negation
  /-- From a shape to a value expression behind the references `via`. `extra` is whether the shape
  admits other triples with the predicate. -/
  | value (via : List Label) (extra : Bool)
  /-- From a label to its declaration, after the pair is made active. -/
  | entering
  /-- From an abstract label to one that extends it. -/
  | subtype
  /-- From an expression to a part of it, and from a reference to its label. -/
  | inside
deriving DecidableEq, Repr

/-- The pairs that are active at a position. -/
def Position.active : Position → List (Term × Label)
  | expr scope _ _ | label scope _ _ | entered scope _ _ => scope.active

namespace Setting

variable {σ : Type}

/-- Evaluation at a position asks for another position. -/
inductive Asks (st : Setting σ) : Position → Step → Position → Prop
  | and {scope : Scope} {node : Term} {m : Mark} {es : List ShapeExpr} {e : ShapeExpr}
      (he : e ∈ es) : Asks st (.expr scope node (.and m es)) .inside (.expr scope node e)
  | or {scope : Scope} {node : Term} {m : Mark} {es : List ShapeExpr} {e : ShapeExpr}
      (he : e ∈ es) : Asks st (.expr scope node (.or m es)) .inside (.expr scope node e)
  | not {scope : Scope} {node : Term} {m : Mark} {e : ShapeExpr} :
      Asks st (.expr scope node (.not m e)) .negation (.expr scope node e)
  | ref {scope : Scope} {node : Term} {m : Mark} {l : Label} :
      Asks st (.expr scope node (.ref m l)) .inside (.label scope node l)
  /-- The value expressions of a shape, at the other ends of edges that are seen. -/
  | value {scope : Scope} {node : Term} {mk : Mark} {h : ShapeHeader} {t : TripleExpr}
      {via : List Label} {m : TripleMark} {v : ShapeExpr} {e : Edge}
      (hin : st.validator.schema.Inside via t (.constraint m e.arc (some v)))
      (hsees : scope.Sees st.graph node e) :
      Asks st (.expr scope node (.shape mk h (some t)))
        (.value via (h.extra.contains e.predicate)) (.expr scope.showAll e.opposite v)
  /-- A label that is not abstract and not active for the node. -/
  | enter {scope : Scope} {node : Term} {l : Label} {d : ShapeDecl}
      (hd : st.validator.schema.shape? l = some d) (habstract : d.isAbstract = false)
      (hactive : scope.isActive node l = false) :
      Asks st (.label scope node l) .entering (.entered (scope.enter node l) node l)
  /-- An abstract label that is not active for the node. -/
  | subtype {scope : Scope} {node : Term} {l child : Label} {d d' : ShapeDecl}
      (hd : st.validator.schema.shape? l = some d) (habstract : d.isAbstract = true)
      (hactive : scope.isActive node l = false)
      (hchild : (child, d') ∈ concreteSubtypes st.validator l) :
      Asks st (.label scope node l) .subtype (.label (scope.enter node l) node child)
  | declared {scope : Scope} {node : Term} {l : Label} {d : ShapeDecl}
      (hd : st.validator.schema.shape? l = some d)
      (hparents : st.validator.hierarchy.hasParents l = false) :
      Asks st (.entered scope node l) .inside (.expr scope node d.expr)
  /-- The value expressions of what an extending shape is matched together with. -/
  | partValue {scope : Scope} {node : Term} {l a : Label} {d : ShapeDecl} {form : Extendable}
      {t : TripleExpr} {via : List Label} {m : TripleMark} {v : ShapeExpr} {e : Edge}
      (hparents : st.validator.hierarchy.hasParents l = true)
      (ha : a ∈ st.validator.hierarchy.ancestors l) (hd : st.validator.schema.shape? a = some d)
      (hform : d.expr.extendable? = some form) (ht : form.shape.expression = some t)
      (hin : st.validator.schema.Inside via t (.constraint m e.arc (some v)))
      (hsees : scope.Sees st.graph node e) :
      Asks st (.entered scope node l) (.value via (form.shape.isExtra e.predicate))
        (.expr scope.showAll e.opposite v)
  /-- The other conjuncts of what an extending shape is matched together with. -/
  | conjunct {scope : Scope} {node : Term} {l a : Label} {d : ShapeDecl} {form : Extendable}
      {c : ShapeExpr} {others : List Edge}
      (hparents : st.validator.hierarchy.hasParents l = true)
      (ha : a ∈ st.validator.hierarchy.ancestors l) (hd : st.validator.schema.shape? a = some d)
      (hform : d.expr.extendable? = some form) (hc : c ∈ form.constraints) :
      Asks st (.entered scope node l) .inside (.expr (scope.hide node others) node c)

/-- The steps, the latest first, that lead evaluation from one position to another. -/
inductive Course (st : Setting σ) (start : Position) : List Step → Position → Prop
  | refl : Course st start [] start
  | step {steps : List Step} {p q : Position} {step : Step} (h : Course st start steps p)
      (hq : st.Asks p step q) : Course st start (step :: steps) q

end Setting

/-! ### Counting steps -/

namespace Step

/-- A step into a value expression whose predicate is extra. -/
def isExtra : Step → Bool
  | value _ extra => extra
  | _ => false

end Step

/-- The number of negations that were entered. -/
def negations (steps : List Step) : Nat := steps.countP (· == .negation)

/-- The number of value expressions on extra predicates that were entered. -/
def extras (steps : List Step) : Nat := steps.countP Step.isExtra

/-- The labelled triple expressions that were entered since a pair was made active, the latest
first. -/
def path : List Step → List Label
  | [] => []
  | .value via _ :: steps => via.reverse ++ path steps
  | .entering :: _ => []
  | _ :: steps => path steps

/-- The labels entered on the way to a value expression come last in the order of entering, hence
first in the path. -/
@[simp] theorem path_value (via : List Label) (extra : Bool) (steps : List Step) :
    path (.value via extra :: steps) = via.reverse ++ path steps := rfl

/-- A step inside an expression enters no label. -/
@[simp] theorem path_inside (steps : List Step) : path (.inside :: steps) = path steps := rfl

/-- No abstract label was resolved to one that extends it, and no labelled triple expression was
entered from inside itself without a pair being made active in between. -/
def IsPlain : List Step → Prop
  | [] => True
  | .subtype :: _ => False
  | .value via _ :: steps => (via.reverse ++ path steps).Nodup ∧ IsPlain steps
  | _ :: steps => IsPlain steps

/-- The steps of a course that turn the sign. -/
def flips (steps : List Step) : Nat := negations steps + extras steps

/-- No step, no turn. -/
@[simp] theorem flips_nil : flips [] = 0 := rfl

/-- A negation turns the sign. -/
@[simp] theorem flips_negation (steps : List Step) :
    flips (.negation :: steps) = flips steps + 1 := by
  simp [flips, negations, extras, Step.isExtra]
  omega

/-- A value expression turns the sign if its predicate is an extra one. -/
@[simp] theorem flips_value (via : List Label) (extra : Bool) (steps : List Step) :
    flips (.value via extra :: steps) = if extra then flips steps + 1 else flips steps := by
  cases extra <;> simp [flips, negations, extras, Step.isExtra, List.countP_cons]
  omega

/-- Entering a declaration turns nothing. -/
@[simp] theorem flips_entering (steps : List Step) : flips (.entering :: steps) = flips steps := by
  simp [flips, negations, extras, Step.isExtra]

/-- A step inside an expression turns nothing. -/
@[simp] theorem flips_inside (steps : List Step) : flips (.inside :: steps) = flips steps := by
  simp [flips, negations, extras, Step.isExtra]

/-- The sign after it was turned a number of times. -/
def Polarity.ofFlips : Nat → Polarity
  | 0 => .positive
  | n + 1 => (ofFlips n).flip

/-- The sign is positive after an even number of turns. -/
theorem Polarity.ofFlips_eq_positive_iff {n : Nat} : ofFlips n = .positive ↔ Even n := by
  induction n with
  | zero => simp [ofFlips]
  | succ n ih =>
    rw [ofFlips, Nat.even_add_one, ← ih]
    cases ofFlips n <;> simp [flip]

/-! ### The sign of a course -/

namespace Setting

variable {σ : Type} {st : Setting σ} {start q : Position} {steps : List Step} {l : Label}

/-- The labelled triple expressions that were entered are declared, and none was entered twice. The
first holds of every course, since a way inside an expression resolves its references; the second is
what it means to be plain. -/
theorem Course.isPath (h : st.Course start steps q) (hplain : IsPlain steps) :
    st.validator.schema.IsPath (path steps) := by
  induction h with
  | refl => exact Schema.isPath_nil
  | step _ hq ih =>
    cases hq with
    | value hin _ =>
      refine ⟨hplain.1, fun l hl => ?_⟩
      rcases List.mem_append.1 hl with hl | hl
      · exact hin.declared l (List.mem_reverse.1 hl)
      · exact (ih hplain.2).declared l hl
    | partValue _ _ _ _ _ hin _ =>
      refine ⟨hplain.1, fun l hl => ?_⟩
      rcases List.mem_append.1 hl with hl | hl
      · exact hin.declared l (List.mem_reverse.1 hl)
      · exact (ih hplain.2).declared l hl
    | enter => exact Schema.isPath_nil
    | subtype => exact hplain.elim
    | _ => exact ih hplain

/-- The sign of a value expression is turned as the step into it says. -/
theorem valueSign_ofFlips {extra : List Iri} {n : Nat} {a : Arc} :
    Schema.valueSign extra (.ofFlips n) a =
      .ofFlips (if extra.contains a.predicate then n + 1 else n) := by
  unfold Schema.valueSign
  split <;> rfl

/-- What is known at a position that a course from the label `l` has led to. An expression
is met in a declaration that has its dependencies, with a sign that is the sign of the course if the
declaration leads back to `l`. -/
def Tracks (st : Setting σ) (l : Label) (steps : List Step) : Position → Prop
  | .expr _ _ e => ∃ c d p, st.validator.schema.shape? c = some d ∧
      ReflTransGen st.validator.schema.DependsOn l c ∧
      (∀ x ∈ st.validator.schema.dependenciesAfter (path steps) p e,
        x ∈ st.validator.schema.dependencies d.expr) ∧
      (ReflTransGen st.validator.schema.DependsOn c l → p = .ofFlips (flips steps))
  | .label _ _ l' => ReflTransGen st.validator.schema.DependsOn l l' ∧
      (ReflTransGen st.validator.schema.DependsOn l' l → .positive = Polarity.ofFlips (flips steps))
  | .entered _ _ l' => path steps = [] ∧ ReflTransGen st.validator.schema.DependsOn l l' ∧
      (ReflTransGen st.validator.schema.DependsOn l' l → .positive = Polarity.ofFlips (flips steps))

/-- A dependency whose label leads back to where it comes from is not negative. -/
theorem positive_of_mem_dependencies (hacc : st.validator.IsAccepted) {c l' : Label}
    {d : ShapeDecl} (hd : st.validator.schema.shape? c = some d) {p : Polarity}
    (hp : (l', p) ∈ st.validator.schema.dependencies d.expr)
    (hback : ReflTransGen st.validator.schema.DependsOn l' c) : p = .positive := by
  cases p with
  | positive => rfl
  | negative =>
    exact absurd hback ((Schema.isStratified_of_analyze hacc).not_reflTransGen ⟨d, hd, hp⟩)

/-- One step keeps track. There is a case for each kind of step: a step inside an expression keeps
path and sign, a negation turns the sign, and a value expression adds the labels on the way to it
and turns the sign if its predicate is extra. -/
theorem Tracks.step (hv : st.validator.IsBuilt)
    {p q : Position} {step : Step} (hplain : IsPlain (step :: steps))
    (hpath : st.validator.schema.IsPath (path (step :: steps))) (hp : st.Tracks l steps p)
    (hq : st.Asks p step q) : st.Tracks l (step :: steps) q := by
  have hacc := hv.accepted
  have hhier := hv.hierarchy
  cases hq with
  | and he =>
    obtain ⟨c, d, p, hd, hto, hdeps, hsign⟩ := hp
    exact ⟨c, d, p, hd, hto, fun x hx => hdeps x (Schema.mem_dependenciesAfter_and.2 ⟨_, he, hx⟩),
      by simpa using hsign⟩
  | or he =>
    obtain ⟨c, d, p, hd, hto, hdeps, hsign⟩ := hp
    exact ⟨c, d, p, hd, hto, fun x hx => hdeps x (Schema.mem_dependenciesAfter_or.2 ⟨_, he, hx⟩),
      by simpa using hsign⟩
  | not =>
    obtain ⟨c, d, p, hd, hto, hdeps, hsign⟩ := hp
    refine ⟨c, d, p.flip, hd, hto, fun x hx => hdeps x ?_, fun hback => ?_⟩
    · rwa [Schema.dependenciesAfter_not]
    · rw [flips_negation, Polarity.ofFlips, hsign hback]
  | ref =>
    obtain ⟨c, d, p, hd, hto, hdeps, hsign⟩ := hp
    rename_i l'
    have hmem : (l', p) ∈ st.validator.schema.dependencies d.expr :=
      hdeps _ (by rw [Schema.dependenciesAfter_ref]; exact List.mem_singleton_self _)
    refine ⟨hto.tail ⟨d, hd, p, hmem⟩, fun hback => ?_⟩
    have hpos := positive_of_mem_dependencies hacc hd hmem (hback.trans hto)
    rw [flips_inside, ← hsign (ReflTransGen.head ⟨d, hd, p, hmem⟩ hback), hpos]
  | value hin _ =>
    obtain ⟨c, d, p, hd, hto, hdeps, hsign⟩ := hp
    refine ⟨c, d, _, hd, hto, fun x hx => hdeps x
      (Schema.mem_dependenciesAfter_of_value hin hpath hx), fun hback => ?_⟩
    rw [flips_value, hsign hback, valueSign_ofFlips]
    rfl
  | enter hd _ _ => exact ⟨rfl, hp.1, by simpa using hp.2⟩
  | subtype => exact hplain.elim
  | @declared _ _ _ d hd _ =>
    obtain ⟨hempty, hto, hsign⟩ := hp
    refine ⟨_, d, .positive, hd, hto, fun x hx => ?_, by simpa using hsign⟩
    rwa [path_inside, hempty, Schema.dependenciesAfter_nil] at hx
  | @partValue _ _ l' a d form t via m v e _ ha hd hform ht hin _ =>
    obtain ⟨hempty, hto, hsign⟩ := hp
    have hup : ReflTransGen st.validator.schema.DependsOn l' a :=
      Schema.dependsOn_of_mem_ancestors (hhier ▸ ha)
    rw [path_value, hempty, List.append_nil] at hpath
    refine ⟨a, d, Schema.valueSign form.shape.header.extra .positive e.arc, hd, hto.trans hup,
      fun x hx => ?_, fun hback => ?_⟩
    · obtain ⟨⟨mk, hmain⟩, -⟩ := ShapeExpr.extendable?_eq_some hform
      rw [path_value, hempty, List.append_nil] at hx
      rw [← Schema.dependenciesAfter_nil]
      refine Schema.mem_dependenciesAfter_of_main hform ?_
      rw [hmain, ht]
      exact Schema.mem_dependenciesAfter_of_value hin (by rwa [List.append_nil])
        (by rwa [List.append_nil])
    · rw [flips_value, hsign (hup.trans hback), valueSign_ofFlips]
      rfl
  | @conjunct _ _ l' a d form c _ _ ha hd hform hc =>
    obtain ⟨hempty, hto, hsign⟩ := hp
    have hup : ReflTransGen st.validator.schema.DependsOn l' a :=
      Schema.dependsOn_of_mem_ancestors (hhier ▸ ha)
    refine ⟨a, d, .positive, hd, hto.trans hup, fun x hx => ?_, fun hback => ?_⟩
    · rw [path_inside, hempty] at hx
      rw [← Schema.dependenciesAfter_nil]
      exact Schema.mem_dependenciesAfter_of_conjunct hform hc hx
    · rw [flips_inside]
      exact hsign (hup.trans hback)

/-- A course from the label `l` keeps track of the path and the sign, by induction on its steps. -/
theorem Course.tracks (hv : st.validator.IsBuilt)
    {scope : Scope} {node : Term} (h : st.Course (.label scope node l) steps q)
    (hplain : IsPlain steps) : st.Tracks l steps q := by
  induction h with
  | refl => exact ⟨.refl, fun _ => rfl⟩
  | @step steps p q step h hq ih =>
    have hrest : IsPlain steps := by
      cases step with
      | value => exact hplain.2
      | subtype => exact hplain.elim
      | _ => exact hplain
    exact (ih hrest).step hv hplain ((h.step hq).isPath hplain) hq

/-- A course from a label back to the label turns the sign an even number of times. -/
theorem Course.even_flips (hv : st.validator.IsBuilt)
    {scope scope' : Scope} {node node' : Term}
    (h : st.Course (.label scope node l) steps (.label scope' node' l)) (hplain : IsPlain steps) :
    Even (flips steps) :=
  Polarity.ofFlips_eq_positive_iff.1 ((h.tracks hv hplain).2 .refl).symm

end Setting

end Shex
