import Shex.Proofs.Assumptions
import Shex.Proofs.Consistency

/-!
# Where shapes extend others

A shape that extends others is meant to be the main shape of a declaration, and as such it is
evaluated together with what it extends. As any other expression it would be evaluated as if it
extended nothing. The occurrences of expressions in a schema are the main shapes of its declarations
and what stands beside them (`Schema.expressions_perm`).

In a schema that is accepted nothing beside main shapes extends others, except for two cases: what
is nested in labelled triple expressions is not looked at, and a main shape without triple
constraints may be used once more in a conjunct beside itself. Without these cases evaluation never
comes to a shape that extends others other than by its declaration (`Setting.extension_in_place`);
with either of them it can (`extension_ignored`).
-/

namespace Shex

/-! ### Occurrences -/

namespace ShapeExpr

/-- The labels that a shape extends. -/
def parents (e : ShapeExpr) : List Label := e.shape?.elim [] (·.header.parents)

/-- What is nested in a declared expression beside its main shape. -/
def beside : ShapeExpr → List ShapeExpr
  | .shape _ _ t => t.elim [] TripleExpr.nested
  | .and m (.shape m' h t :: es) =>
    .and m (.shape m' h t :: es) :: (t.elim [] TripleExpr.nested ++ nestedIn es)
  | e => e.nested

variable {e x : ShapeExpr} {form : Extendable}

/-- The two equations for shapes, with and without a triple expression, as one. -/
theorem nested_shape {m : Mark} {h : ShapeHeader} {t : Option TripleExpr} :
    (ShapeExpr.shape m h t).nested = .shape m h t :: t.elim [] TripleExpr.nested := by
  cases t <;> rw [nested] <;> first | rfl | simp

/-- Without a main shape everything stands beside it. -/
theorem beside_eq_nested (h : e.extendable? = none) : e.beside = e.nested := by
  unfold beside
  split
  · simp [extendable?] at h
  · simp [extendable?, shape?] at h
  · rfl

/-- What is nested in a declaration with a main shape is the main shape and what stands beside it. A
permutation, since a conjunction is listed before its first operand. -/
theorem nested_perm (h : e.extendable? = some form) : e.nested.Perm (form.main :: e.beside) := by
  obtain ⟨⟨m, hmain⟩, ⟨rfl, -⟩ | ⟨m', rfl⟩⟩ := extendable?_eq_some h
  · rw [hmain, nested_shape, beside]
  · rw [hmain, nested, nestedIn, nested_shape, beside]
    exact .swap _ _ _

/-- What stands beside a main shape is the conjunction that begins with it, and what is nested in
its triple expression and in the other conjuncts. -/
theorem mem_beside_iff (h : e.extendable? = some form) : x ∈ e.beside ↔
    (∃ m, e = .and m (form.main :: form.constraints) ∧ x = e) ∨
      x ∈ form.shape.expression.elim [] TripleExpr.nested ∨
      ∃ c ∈ form.constraints, x ∈ c.nested := by
  obtain ⟨⟨m, hmain⟩, ⟨rfl, hnil⟩ | ⟨m', rfl⟩⟩ := extendable?_eq_some h
  · rw [hmain, beside, hnil]
    simp
  · rw [hmain, beside, List.mem_cons, List.mem_append, nestedIn_eq_flatMap, List.mem_flatMap]
    simp

/-- The main shape stands beside itself in another conjunct, if at all. It is not nested in its own
triple expression, since nothing is a part of itself, and it is no conjunction. -/
theorem exists_conjunct_of_main_mem_beside (h : e.extendable? = some form)
    (hmem : form.main ∈ e.beside) : ∃ c ∈ form.constraints, form.main ∈ c.nested := by
  obtain ⟨⟨m, hmain⟩, -⟩ := extendable?_eq_some h
  rcases (mem_beside_iff h).1 hmem with ⟨m', heq, hself⟩ | hvalue | hconjunct
  · rw [← hself, hmain] at heq
    cases heq
  · rw [hmain] at hvalue
    cases ht : form.shape.expression with
    | none =>
      rw [ht] at hvalue
      cases hvalue
    | some t =>
      rw [ht] at hvalue
      exact absurd hvalue TripleExpr.shape_notMem_nested
  · exact hconjunct

end ShapeExpr

namespace Schema

variable {s : Schema} {R : Readers} {x : ShapeExpr} {l : Label} {d : ShapeDecl}

/-- The main shapes of the declarations. -/
def mainShapes (s : Schema) : List ShapeExpr :=
  s.shapes.values.filterMap fun d => d.expr.extendable?.map (·.main)

/-- The expressions of a schema beside the main shapes of its declarations. -/
def beside (s : Schema) : List ShapeExpr :=
  s.shapes.values.flatMap (·.expr.beside) ++ s.start.toList.flatMap ShapeExpr.nested ++
    s.tripleExprs.values.flatMap TripleExpr.nested

/-- Every occurrence of an expression is a main shape or stands beside the main shapes. As lists up
to order, so that a node that occurs twice is counted twice. -/
theorem expressions_perm : s.expressions.Perm (s.mainShapes ++ s.beside) := by
  have hshapes : ∀ ds : List ShapeDecl, (ds.flatMap (·.expr.nested)).Perm
      (ds.filterMap (fun d => d.expr.extendable?.map (·.main)) ++ ds.flatMap (·.expr.beside)) := by
    intro ds
    induction ds with
    | nil => exact .refl _
    | cons d ds ih =>
      rw [List.flatMap_cons, List.flatMap_cons]
      cases hform : d.expr.extendable? with
      | none =>
        rw [List.filterMap_cons_none (by simp [hform]), ShapeExpr.beside_eq_nested hform]
        exact (ih.append_left _).trans (List.perm_append_comm_assoc ..)
      | some form =>
        rw [List.filterMap_cons_some (b := form.main) (by simp [hform]), List.cons_append]
        refine ((ShapeExpr.nested_perm hform).append ih).trans (.cons _ ?_)
        exact List.perm_append_comm_assoc ..
  have happ := ((hshapes s.shapes.values).append_right (s.start.toList.flatMap ShapeExpr.nested)
    ).append_right (s.tripleExprs.values.flatMap TripleExpr.nested)
  rwa [List.append_assoc (_ ++ _), List.append_assoc (List.filterMap _ _),
    ← List.append_assoc (List.flatMap _ s.shapes.values)] at happ

/-- What stands beside the main shapes of a schema, by where it is: in a declaration, in the start
expression, or in a labelled triple expression. -/
theorem mem_beside_iff : x ∈ s.beside ↔
    (∃ l d, s.shape? l = some d ∧ x ∈ d.expr.beside) ∨ (∃ e, s.start = some e ∧ x ∈ e.nested) ∨
      ∃ l t, s.tripleExpr? l = some t ∧ x ∈ t.nested := by
  rw [beside, List.mem_append, List.mem_append, mem_flatMap_values, mem_flatMap_values, or_assoc]
  simp [shape?, tripleExpr?]

/-- No shape that extends others stands beside the main shapes. -/
def ExtendsInPlace (s : Schema) : Prop := ∀ x ∈ s.beside, x.parents = []

/-- No shape in a labelled triple expression extends others. -/
def LabelledExtendNothing (s : Schema) : Prop :=
  ∀ l t, s.tripleExpr? l = some t → ∀ x ∈ t.nested, x.parents = []

/-- A main shape that extends others and has no triple constraints is used once more in a conjunct
beside itself. -/
def ReusesMain (s : Schema) : Prop :=
  ∃ l d form, s.shape? l = some d ∧ d.expr.extendable? = some form ∧
    form.shape.header.parents ≠ [] ∧ form.shape.expression.elim [] s.predicates = [] ∧
    ∃ c ∈ form.constraints, form.main ∈ c.nested

/-! ### What the check of extension guarantees -/

section
variable (hacc : s.analyze R = .ok ())
include hacc

/-- In a declaration, only nodes with the identity of the main shape may extend others. The check
asks for identities, which is why a main shape that occurs once more is let through. -/
theorem parents_eq_nil_of_declared (hd : s.shape? l = some d) (hx : x ∈ d.expr.nested)
    (hne : some x.id ≠ d.expr.extendable?.map (·.main.id)) : x.parents = [] := by
  have hcheck := (analyze_eq_ok_iff.1 hacc).2.2.2.2.1
  rw [checkExtension, bind_eq_ok_iff, checkExtensionPlaces, forM_eq_ok_iff] at hcheck
  have hplace := hcheck.1 (l, d) ((Table.get?_eq_some_iff _).1 hd)
  dsimp only at hplace
  split at hplace
  · rename_i hempty
    rw [List.isEmpty_iff, parentsBeside, List.flatMap_eq_nil_iff] at hempty
    have hparents := hempty x hx
    rwa [if_neg hne] at hparents
  · cases hplace

/-- In the start expression nothing may extend others: it has no main shape that would be let
through. -/
theorem parents_eq_nil_of_start {e : ShapeExpr} (he : s.start = some e) (hx : x ∈ e.nested) :
    x.parents = [] := by
  have hcheck := (analyze_eq_ok_iff.1 hacc).2.2.2.2.1
  rw [checkExtension, bind_eq_ok_iff, bind_eq_ok_iff, checkStartExtension, he] at hcheck
  have hstart := hcheck.2.1
  split at hstart
  · cases hstart
  · rename_i hnone
    rw [List.head?_eq_none_iff, List.flatMap_eq_nil_iff] at hnone
    have hempty := hnone e (by simp)
    rw [parentsBeside, List.flatMap_eq_nil_iff] at hempty
    simpa [ShapeExpr.parents] using hempty x hx

/-- A main shape that is used once more in a conjunct has no predicates: the conjuncts of what
extends something must not name predicates of the main shape, and this one names them all. -/
theorem predicates_eq_nil_of_reuse (hd : s.shape? l = some d) {form : Extendable}
    (hform : d.expr.extendable? = some form) (hne : form.shape.header.parents ≠ []) {c : ShapeExpr}
    (hc : c ∈ form.constraints) (hmem : form.main ∈ c.nested) :
    form.shape.expression.elim [] s.predicates = [] := by
  obtain ⟨l', hl'⟩ := List.exists_mem_of_ne_nil _ hne
  have hextends : s.Extends l l' := ⟨d, form, hd, hform, hl'⟩
  have hcheck := hextends.checkExtendable hacc (.inl rfl) hd
  rw [checkExtendable, hform] at hcheck
  have hconjunct := forM_eq_ok_iff.1 hcheck c hc
  split at hconjunct
  · cases hconjunct
  · rename_i hnone
    obtain ⟨⟨m, hmain⟩, -⟩ := ShapeExpr.extendable?_eq_some hform
    -- The predicates of the main shape are among those of the conjunct, and no predicate may be.
    refine List.eq_nil_iff_forall_not_mem.2 fun p hp => ?_
    have hnested : p ∈ s.nestedPredicates c :=
      List.mem_flatMap.2 ⟨form.main, hmem, by rw [hmain]; exact hp⟩
    exact List.find?_eq_none.1 hnone p hnested (List.contains_iff_mem.2 hp)

/-- Beside the main shapes, what may extend others is in a labelled triple expression or is a main
shape without triple constraints. -/
theorem extendsInPlace_iff (hco : s.IsCoherent) :
    s.ExtendsInPlace ↔ s.LabelledExtendNothing ∧ ¬ s.ReusesMain := by
  constructor
  · intro h
    refine ⟨fun l t ht x hx => h x (mem_beside_iff.2 (.inr (.inr ⟨l, t, ht, hx⟩))), ?_⟩
    rintro ⟨l, d, form, hd, hform, hne, -, c, hc, hmem⟩
    obtain ⟨⟨m, hmain⟩, -⟩ := ShapeExpr.extendable?_eq_some hform
    have hbeside : form.main ∈ d.expr.beside :=
      (ShapeExpr.mem_beside_iff hform).2 (.inr (.inr ⟨c, hc, hmem⟩))
    have hparents := h _ (mem_beside_iff.2 (.inl ⟨l, d, hd, hbeside⟩))
    rw [hmain] at hparents
    exact hne hparents
  · rintro ⟨hlabelled, hreuse⟩ x hx
    rcases mem_beside_iff.1 hx with ⟨l, d, hd, hx⟩ | ⟨e, he, hx⟩ | ⟨l, t, ht, hx⟩
    · cases hform : d.expr.extendable? with
      | none =>
        rw [ShapeExpr.beside_eq_nested hform] at hx
        exact parents_eq_nil_of_declared hacc hd hx (by simp [hform])
      | some form =>
        have hnested := (ShapeExpr.nested_perm hform).mem_iff.2 (List.mem_cons_of_mem _ hx)
        by_cases hid : x.id = form.main.id
        · have hhas : s.Has x := (has_of_shape? hd).of_nested hnested
          obtain rfl : x = form.main := hco.shapes x _ hhas ((has_of_shape? hd).main hform) hid
          obtain ⟨c, hc, hmem⟩ := ShapeExpr.exists_conjunct_of_main_mem_beside hform hx
          obtain ⟨⟨m, hmain⟩, -⟩ := ShapeExpr.extendable?_eq_some hform
          by_contra hne
          rw [hmain] at hne
          exact hreuse ⟨l, d, form, hd, hform, hne,
            predicates_eq_nil_of_reuse hacc hd hform hne hc hmem, c, hc, hmem⟩
        · exact parents_eq_nil_of_declared hacc hd hnested (by simpa [hform] using hid)
    · exact parents_eq_nil_of_start hacc he hx
    · exact hlabelled l t ht x hx

end

end Schema

/-! ### Evaluation -/

namespace Schema

variable {s : Schema} {e x : ShapeExpr} {l : Label} {d : ShapeDecl} {form : Extendable}

/-- The expression is in the schema, and no shape in it extends others. -/
def HasUnextended (s : Schema) (e : ShapeExpr) : Prop :=
  s.Has e ∧ ∀ x ∈ e.nested, x.parents = []

/-- With an expression, the nested ones are without extension. -/
theorem HasUnextended.of_nested (h : s.HasUnextended e) (hx : x ∈ e.nested) : s.HasUnextended x :=
  ⟨h.1.of_nested hx, fun y hy => h.2 y (ShapeExpr.nested_trans hx hy)⟩

section
variable (hplace : s.ExtendsInPlace)
include hplace

/-- What stands beside a main shape is without extension. -/
theorem hasUnextended_of_beside (hd : s.shape? l = some d) (hx : x ∈ d.expr.beside)
    (hsub : ∀ y ∈ x.nested, y ∈ d.expr.beside) : s.HasUnextended x := by
  refine ⟨has_iff_mem_expressions.2 (expressions_perm.mem_iff.2 (List.mem_append_right _ ?_)),
    fun y hy => hplace y (mem_beside_iff.2 (.inl ⟨l, d, hd, hsub y hy⟩))⟩
  exact mem_beside_iff.2 (.inl ⟨l, d, hd, hx⟩)

/-- The conjuncts beside a main shape are without extension. -/
theorem hasUnextended_of_conjunct (hd : s.shape? l = some d)
    (hform : d.expr.extendable? = some form) (hx : x ∈ form.constraints) : s.HasUnextended x := by
  have hbeside : ∀ y ∈ x.nested, y ∈ d.expr.beside := fun y hy =>
    (ShapeExpr.mem_beside_iff hform).2 (.inr (.inr ⟨x, hx, hy⟩))
  exact hasUnextended_of_beside hplace hd (hbeside x x.self_mem_nested) hbeside

/-- The value expressions of a main shape are without extension, even if the shape itself extends
others. -/
theorem hasUnextended_of_main (hd : s.shape? l = some d) (hform : d.expr.extendable? = some form)
    {t : TripleExpr} (ht : form.shape.expression = some t) (hx : x ∈ t.nested) :
    s.HasUnextended x := by
  have hbeside : ∀ y ∈ x.nested, y ∈ d.expr.beside := fun y hy =>
    (ShapeExpr.mem_beside_iff hform).2 (.inr (.inl (by
      rw [ht]
      exact TripleExpr.nested_trans hx hy)))
  exact hasUnextended_of_beside hplace hd (hbeside x x.self_mem_nested) hbeside

/-- A declaration that extends nothing is without extension: its main shape extends nothing by
assumption, and nothing else does by the condition on places. -/
theorem hasUnextended_of_declared (hd : s.shape? l = some d)
    (hparents : (Hierarchy.ofSchema s).hasParents l = false) : s.HasUnextended d.expr := by
  refine ⟨has_of_shape? hd, fun x hx => ?_⟩
  have hbeside : x ∈ d.expr.beside → x.parents = [] := fun hx =>
    hplace x (mem_beside_iff.2 (.inl ⟨l, d, hd, hx⟩))
  cases hform : d.expr.extendable? with
  | none => exact hbeside (ShapeExpr.beside_eq_nested hform ▸ hx)
  | some form =>
    rcases List.mem_cons.1 ((ShapeExpr.nested_perm hform).mem_iff.1 hx) with rfl | hx
    · obtain ⟨⟨m, hmain⟩, -⟩ := ShapeExpr.extendable?_eq_some hform
      by_contra hne
      rw [hmain] at hne
      have hlookup := lookup_parents_iff.2 ⟨d, hd, by rw [hform]; rfl, hne⟩
      rw [Hierarchy.hasParents, hlookup] at hparents
      cases hparents
    · exact hbeside hx

/-- A value expression is without extension if those of the shape are. -/
theorem hasUnextended_of_inside {t : TripleExpr} {via : List Label} {m : TripleMark} {a : Arc}
    (ht : ∀ y ∈ t.nested, s.HasUnextended y) (hin : s.Inside via t (.constraint m a (some x))) :
    s.HasUnextended x := by
  have hlabelled : ∀ l e, s.tripleExpr? l = some e → ∀ y ∈ e.nested, s.HasUnextended y := by
    refine fun l e hl y hy => ⟨.inr (.inr ⟨l, e, hl, hy⟩), fun z hz => hplace z ?_⟩
    exact mem_beside_iff.2 (.inr (.inr ⟨l, e, hl, TripleExpr.nested_trans hy hz⟩))
  refine nested_of_inside hin hlabelled ht x ?_
  rw [TripleExpr.nested]
  exact x.self_mem_nested

end

end Schema

namespace Setting

variable {σ : Type} {st : Setting σ}

/-- No shape in the expression at a position extends others. -/
def IsUnextended (st : Setting σ) (p : Position) : Prop :=
  ∀ scope node e, p = .expr scope node e → st.validator.schema.HasUnextended e

/-- At a position with an expression, the condition is about that expression. -/
theorem isUnextended_expr {scope : Scope} {node : Term} {e : ShapeExpr}
    (h : st.validator.schema.HasUnextended e) : st.IsUnextended (.expr scope node e) := by
  rintro _ _ _ ⟨⟩
  exact h

/-- Evaluation keeps to expressions in which nothing extends others. A main shape that extends
others is never asked for as an expression, since its declaration is then evaluated by its plan. -/
theorem isClosed_isUnextended (hhier : st.validator.hierarchy = .ofSchema st.validator.schema)
    (hplace : st.validator.schema.ExtendsInPlace) : st.IsClosed st.IsUnextended := by
  intro p step q hp hask
  cases hask with
  | and he => exact isUnextended_expr ((hp _ _ _ rfl).of_nested (ShapeExpr.mem_nested_and he))
  | or he => exact isUnextended_expr ((hp _ _ _ rfl).of_nested (ShapeExpr.mem_nested_or he))
  | not => exact isUnextended_expr ((hp _ _ _ rfl).of_nested ShapeExpr.mem_nested_not)
  | value hin hsees =>
    exact isUnextended_expr (Schema.hasUnextended_of_inside hplace
      (fun x hx => (hp _ _ _ rfl).of_nested (ShapeExpr.mem_nested_shape hx)) hin)
  | declared hd hparents =>
    exact isUnextended_expr (Schema.hasUnextended_of_declared hplace hd (hhier ▸ hparents))
  | partValue hparents ha hd hform ht hin hsees =>
    exact isUnextended_expr (Schema.hasUnextended_of_inside hplace
      (fun x hx => Schema.hasUnextended_of_main hplace hd hform ht hx) hin)
  | conjunct hparents ha hd hform hc =>
    exact isUnextended_expr (Schema.hasUnextended_of_conjunct hplace hd hform hc)
  | ref | enter | subtype => exact nofun

/-- A check begins with an expression in which nothing extends others. -/
theorem Begins.isUnextended (hplace : st.validator.schema.ExtendsInPlace) {node : Term}
    {selector : Selector} {p : Position} (h : st.Begins node selector p) : st.IsUnextended p := by
  cases h with
  | label => exact nofun
  | start he =>
    exact isUnextended_expr ⟨Schema.has_of_start he, fun x hx =>
      hplace x (Schema.mem_beside_iff.2 (.inr (.inl ⟨_, he, hx⟩)))⟩

/-- By induction on the course: evaluation begins without extension and keeps to it. -/
theorem Visits.isUnextended (hhier : st.validator.hierarchy = .ofSchema st.validator.schema)
    (hplace : st.validator.schema.ExtendsInPlace) {node : Term} {selector : Selector} {p : Position}
    (h : st.Visits node selector p) : st.IsUnextended p := by
  obtain ⟨start, steps, hstart, hcourse⟩ := h
  induction hcourse with
  | refl => exact hstart.isUnextended hplace
  | step _ hask ih => exact isClosed_isUnextended hhier hplace _ _ _ ih hask

/-- Nothing beside the main shapes of an accepted schema extends others, unless it is in a labelled
triple expression or is a main shape without triple constraints that is used once more. If so, every
shape that extends others is a main shape, and evaluation comes to no shape that extends others and
to no expression in which one does: what evaluation would do there does not matter. -/
theorem extension_in_place (hv : st.validator.IsBuilt)
    (hco : st.validator.schema.IsCoherent) :
    (st.validator.schema.ExtendsInPlace ↔
      st.validator.schema.LabelledExtendNothing ∧ ¬ st.validator.schema.ReusesMain) ∧
    (st.validator.schema.ExtendsInPlace →
      (∀ x, st.validator.schema.Has x → x.parents ≠ [] → x ∈ st.validator.schema.mainShapes) ∧
      ∀ (node : Term) (selector : Selector),
        (∀ scope m x, st.Visits node selector (.expr scope m x) → x.parents = []) ∧
        ∀ (other : Evaluator σ) (r : RunState σ), st.KnowsMemo r.memo →
          (st.checkSelectedOn st.IsUnextended other node selector).run.run r =
            (st.checkSelected node selector).run.run r) := by
  have hacc := hv.accepted
  have hhier := hv.hierarchy
  refine ⟨Schema.extendsInPlace_iff hacc hco, fun hplace => ⟨fun x hx hparents => ?_,
    fun node selector => ⟨fun scope m x hvisit => ?_, fun other r hr => ?_⟩⟩⟩
  · have hmem := Schema.expressions_perm.mem_iff.1 (Schema.has_iff_mem_expressions.1 hx)
    exact (List.mem_append.1 hmem).resolve_right fun hbeside => hparents (hplace x hbeside)
  · exact (hvisit.isUnextended hhier hplace _ _ _ rfl).2 x x.self_mem_nested
  · have hclosed := isClosed_isUnextended hhier hplace
    have hsame := satisfiesOn_same hv hco hclosed (fun _ _ _ hp => (hp _ _ _ rfl).1) other
      st.limits.depth
    cases selector with
    | label l => exact (satisfiesLabel_same hv hco hclosed hsame nofun r hr).2
    | start =>
      rw [checkSelectedOn, checkSelected]
      cases he : st.validator.schema.start with
      | none => rfl
      | some e => exact (hsame _ _ _ ((Begins.start he).isUnextended hplace) r hr).2

end Setting

/-! ### Examples -/

/-- `<Base> { p . }` with one more declaration, `<S>`. -/
def besideBase (e : ShapeExpr) : Schema :=
  (Schema.empty.addShape (.iri ⟨"Base"⟩) ⟨false, single 0 "p" none⟩).addShape (.iri ⟨"S"⟩)
    ⟨false, e⟩

/-- In `<S> EXTENDS @<Base> { q . }` the shape is the main shape of the declaration. -/
theorem extendingBase_mem_mainShapes :
    extendingBase 2 ∈ (besideBase (extendingBase 2)).mainShapes := by
  have hplace : (besideBase (extendingBase 2)).ExtendsInPlace := by
    unfold Schema.ExtendsInPlace
    decide
  have hmain := ((@Setting.extension_in_place Unit (settingOf (besideBase (extendingBase 2)) [])
    ⟨rfl, rfl⟩ (Schema.isCoherent_of_nodup (by decide) (by decide))).2 hplace).1
  exact hmain _ (@Schema.has_of_shape? _ (.iri ⟨"S"⟩) ⟨false, extendingBase 2⟩ rfl) (by decide)

/-- `<S> { &<T> }` with `$<T> r EXTENDS @<Base> { q . }` -/
def labelledExtension : Schema :=
  (besideBase (.shape ⟨⟨4⟩, []⟩ .plain
    (some (.ref (.written ⟨⟨5⟩, []⟩) (.iri ⟨"T"⟩))))).addTripleExpr (.iri ⟨"T"⟩)
    (.constraint (.written ⟨⟨6⟩, []⟩) ⟨⟨"r"⟩, false⟩ (some (extendingBase 2)))

/-- `EXTENDS @<Base> { }` -/
def bareExtension : ShapeExpr := .shape ⟨⟨2⟩, []⟩ ⟨false, [], [.iri ⟨"Base"⟩]⟩ none

/-- `<S> EXTENDS @<Base> { } AND NOT EXTENDS @<Base> { }`, with the one shape used twice. -/
def reusedMain : Schema :=
  besideBase (.and ⟨⟨3⟩, []⟩ [bareExtension, .not ⟨⟨4⟩, []⟩ bareExtension])

/-- The one shape that is used twice is the same in both places, so the schema is coherent although
an identity occurs twice. -/
theorem reusedMain_isCoherent : reusedMain.IsCoherent := by
  let conjunct : ShapeExpr := .not ⟨⟨4⟩, []⟩ bareExtension
  refine @Schema.isCoherent_of_subset _
    [single 0 "p" none, .and ⟨⟨3⟩, []⟩ [bareExtension, conjunct], bareExtension, conjunct]
    ?_ (by decide) (by decide)
  change [single 0 "p" none, .and ⟨⟨3⟩, []⟩ [bareExtension, conjunct], bareExtension, conjunct,
    bareExtension] ⊆ _
  simp

/-- The schema is accepted, and in a check of the node against the label a shape that extends others
is evaluated as one that does not. -/
def Setting.IgnoresExtension (st : Setting Unit) (node : Term) (l : Label) : Prop :=
  st.validator.IsBuilt ∧ st.validator.schema.IsCoherent ∧
    ∃ scope m x, st.Visits node (.label l) (.expr scope m x) ∧ x.parents ≠ []

/-- The course into the labelled triple expression: through the label, its declaration and the
reference, to the value of `r`. -/
theorem labelledExtension_ignores :
    (settingOf labelledExtension [link "n" "r" "m", link "m" "q" "n"]).IgnoresExtension
      (.resource (.iri ⟨"n"⟩)) (.iri ⟨"S"⟩) := by
  refine ⟨⟨rfl, rfl⟩, Schema.isCoherent_of_nodup (by decide) (by decide), _, _, extendingBase 2,
    ⟨_, _, .label _, .step (.step (.step .refl
      (.enter (d := ⟨false, _⟩) rfl rfl rfl)) (.declared rfl rfl))
      (.value (e := ⟨link "n" "r" "m", false⟩) (.ref rfl (.self _)) (by decide))⟩, by decide⟩

/-- The course into the conjunct beside the main shape: through the label, the conjunct and its
negation. -/
theorem reusedMain_ignores :
    (settingOf reusedMain [link "n" "p" "m"]).IgnoresExtension
      (.resource (.iri ⟨"n"⟩)) (.iri ⟨"S"⟩) := by
  have hconjunct := @Setting.Asks.conjunct Unit (settingOf reusedMain [link "n" "p" "m"])
    (Scope.outermost.enter (.resource (.iri ⟨"n"⟩)) (.iri ⟨"S"⟩)) (.resource (.iri ⟨"n"⟩))
    (.iri ⟨"S"⟩) (.iri ⟨"S"⟩) _ _ _ [⟨link "n" "p" "m", false⟩] rfl (.head _) rfl rfl (.head _)
  refine ⟨⟨rfl, rfl⟩, reusedMain_isCoherent, _, _, bareExtension, ⟨_, _, .label _,
    .step (.step (.step .refl (.enter (d := ⟨false, _⟩) rfl rfl rfl)) hconjunct) .not⟩, by decide⟩

/-- Each of the two cases comes up without the other. In the first, the node conforms although the
value of `r` has no `p`. -/
theorem extension_ignored :
    (¬ labelledExtension.LabelledExtendNothing ∧ ¬ labelledExtension.ReusesMain ∧
      (settingOf labelledExtension [link "n" "r" "m", link "m" "q" "n"]).IgnoresExtension
        (.resource (.iri ⟨"n"⟩)) (.iri ⟨"S"⟩) ∧
      (settingOf labelledExtension [link "n" "r" "m", link "m" "q" "n"]).Conforms ()
        (.resource (.iri ⟨"n"⟩)) (.iri ⟨"S"⟩)) ∧
    reusedMain.LabelledExtendNothing ∧ reusedMain.ReusesMain ∧
      (settingOf reusedMain [link "n" "p" "m"]).IgnoresExtension
        (.resource (.iri ⟨"n"⟩)) (.iri ⟨"S"⟩) := by
  refine ⟨⟨fun h => ?_, ?_, labelledExtension_ignores, ⟨_, rfl, rfl⟩⟩, nofun, ?_,
    reusedMain_ignores⟩
  · exact absurd (h (.iri ⟨"T"⟩) _ rfl (extendingBase 2) (.head _)) (by decide)
  · rintro ⟨l, d, form, hd, hform, -, -, c, hc, -⟩
    rcases (Table.get?_eq_some_iff _).1 hd with _ | ⟨_, _ | ⟨_, ⟨⟩⟩⟩ <;>
    · cases hform
      cases hc
  · exact ⟨.iri ⟨"S"⟩, _, _, rfl, rfl, by decide, rfl, _, .head _, .tail _ (.head _)⟩

end Shex
