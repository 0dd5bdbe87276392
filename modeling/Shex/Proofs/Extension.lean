import Shex.Proofs.Dependencies
import Shex.Proofs.Occurrence
import Shex.Validation.Run

/-!
# Extension

Which declarations extend which others (`Schema.Extends`), read off the hierarchy of the schema, and
what the parts of an extending shape are. A declaration depends on what it extends.
-/

namespace Shex

open Relation

/-! ### Extendable expressions -/

/-- An extendable expression is its main shape or a conjunction that begins with it. So the main
shape and what stands beside it are all of the declaration. -/
theorem ShapeExpr.extendable?_eq_some {e : ShapeExpr} {form : Extendable}
    (h : e.extendable? = some form) :
    (∃ m, form.main = .shape m form.shape.header form.shape.expression) ∧
      (e = form.main ∧ form.constraints = [] ∨
        ∃ m, e = .and m (form.main :: form.constraints)) := by
  unfold extendable? at h
  split at h
  · cases h
    exact ⟨⟨_, rfl⟩, .inl ⟨rfl, rfl⟩⟩
  · rename_i m main constraints
    obtain ⟨shape, hshape, rfl⟩ := Option.map_eq_some_iff.1 h
    refine ⟨?_, .inr ⟨m, rfl⟩⟩
    unfold shape? at hshape
    split at hshape
    · cases hshape
      exact ⟨_, rfl⟩
    · cases hshape
  · cases h

namespace Schema

variable {s : Schema} {R : Readers} {l l' : Label} {path : List Label} {p : Polarity}
  {x : Label × Polarity}

/-- With a declaration a schema has its main shape. -/
theorem Has.main {e : ShapeExpr} (he : s.Has e) {form : Extendable}
    (h : e.extendable? = some form) : s.Has form.main := by
  obtain ⟨-, ⟨rfl, -⟩ | ⟨m, rfl⟩⟩ := ShapeExpr.extendable?_eq_some h
  · exact he
  · exact he.of_and List.mem_cons_self

/-- With a declaration a schema has the conjuncts beside its main shape. -/
theorem Has.conjunct {e : ShapeExpr} (he : s.Has e) {form : Extendable}
    (h : e.extendable? = some form) {c : ShapeExpr} (hc : c ∈ form.constraints) : s.Has c := by
  obtain ⟨-, ⟨-, hnil⟩ | ⟨m, rfl⟩⟩ := ShapeExpr.extendable?_eq_some h
  · rw [hnil] at hc
    cases hc
  · exact he.of_and (List.mem_cons_of_mem _ hc)

/-- What the main shape depends on, the declaration depends on. -/
theorem mem_dependenciesAfter_of_main {e : ShapeExpr} {form : Extendable}
    (h : e.extendable? = some form) (hx : x ∈ s.dependenciesAfter path p form.main) :
    x ∈ s.dependenciesAfter path p e := by
  obtain ⟨-, ⟨rfl, -⟩ | ⟨m, rfl⟩⟩ := ShapeExpr.extendable?_eq_some h
  · exact hx
  · exact mem_dependenciesAfter_and.2 ⟨_, List.mem_cons_self, hx⟩

/-- So for the conjuncts beside it. -/
theorem mem_dependenciesAfter_of_conjunct {e : ShapeExpr} {form : Extendable}
    (h : e.extendable? = some form) {c : ShapeExpr} (hc : c ∈ form.constraints)
    (hx : x ∈ s.dependenciesAfter path p c) : x ∈ s.dependenciesAfter path p e := by
  obtain ⟨-, ⟨-, hnil⟩ | ⟨m, rfl⟩⟩ := ShapeExpr.extendable?_eq_some h
  · rw [hnil] at hc
    cases hc
  · exact mem_dependenciesAfter_and.2 ⟨_, List.mem_cons_of_mem _ hc, hx⟩

/-! ### The hierarchy -/

/-- The declaration of a label extends another label. -/
def Extends (s : Schema) (l l' : Label) : Prop :=
  ∃ d form, s.shape? l = some d ∧ d.expr.extendable? = some form ∧ l' ∈ form.shape.header.parents

/-- A declaration depends on what it extends. -/
theorem Extends.dependsOn (h : s.Extends l l') : s.DependsOn l l' := by
  obtain ⟨d, form, hd, hform, hl'⟩ := h
  obtain ⟨⟨m, hm⟩, -⟩ := ShapeExpr.extendable?_eq_some hform
  have hmain : (l', .positive) ∈ s.dependenciesAfter [] .positive form.main := by
    rw [hm]
    exact mem_dependenciesAfter_of_parent hl'
  exact ⟨d, hd, .positive, mem_dependenciesAfter_of_main hform hmain⟩

/-- The first entry of a filtered list for a label, where labels are distinct: it is the only entry,
so it does not matter that the look-up takes the first. -/
theorem lookup_filterMap_iff {α : Type} {f : α → List Label} {ps : List Label} :
    ∀ {es : List (Label × α)}, (es.map Prod.fst).Nodup →
      ((es.filterMap fun e =>
          if (f e.2).isEmpty then none else some (e.1, f e.2)).lookup l = some ps ↔
        ∃ d, (l, d) ∈ es ∧ f d = ps ∧ ps ≠ [])
  | [], _ => by simp
  | (k, d) :: es, h => by
    rw [List.map_cons, List.nodup_cons] at h
    have ih := @lookup_filterMap_iff _ f ps _ h.2
    have hfresh : ∀ d', (k, d') ∉ es := fun d' hd' => h.1 (List.mem_map.2 ⟨_, hd', rfl⟩)
    simp only [List.mem_cons, Prod.mk.injEq]
    by_cases hd : f d = []
    · rw [List.filterMap_cons_none (by simp [hd]), ih]
      grind
    · rw [List.filterMap_cons_some (b := (k, f d)) (by simp [hd]), List.lookup_cons]
      by_cases hl : l = k
      · subst hl
        simp only [beq_self_eq_true, Option.some.injEq]
        grind
      · rw [beq_false_of_ne hl]
        simp only
        rw [ih]
        grind

/-- The hierarchy has an entry for a label exactly if its declaration extends something, and the
entry lists what it extends. -/
theorem lookup_parents_iff {ps : List Label} :
    (Hierarchy.ofSchema s).parents.lookup l = some ps ↔
      ∃ d, s.shape? l = some d ∧ d.expr.extendable?.elim [] (·.shape.header.parents) = ps ∧
        ps ≠ [] := by
  rw [Hierarchy.ofSchema]
  refine (lookup_filterMap_iff (f := fun d : ShapeDecl =>
    d.expr.extendable?.elim [] (·.shape.header.parents)) s.shapes.keys_nodup).trans ?_
  simp only [shape?, Table.get?_eq_some_iff]

/-- A label is listed as a parent exactly if it is extended: parents are looked up in the list of
all labels that extend something, and an undeclared label has none. -/
theorem mem_parentsOf_iff : l' ∈ (Hierarchy.ofSchema s).parentsOf l ↔ s.Extends l l' := by
  rw [Hierarchy.parentsOf]
  constructor
  · intro h
    cases hps : (Hierarchy.ofSchema s).parents.lookup l with
    | none =>
      rw [hps] at h
      cases h
    | some ps =>
      rw [hps, Option.getD_some] at h
      obtain ⟨d, hd, hform, -⟩ := lookup_parents_iff.1 hps
      cases hx : d.expr.extendable? with
      | none =>
        rw [hx] at hform
        cases hform
        cases h
      | some form =>
        rw [hx] at hform
        cases hform
        exact ⟨d, form, hd, hx, h⟩
  · rintro ⟨d, form, hd, hform, hl'⟩
    rw [lookup_parents_iff.2 ⟨d, hd, by rw [hform]; rfl, List.ne_nil_of_mem hl'⟩, Option.getD_some]
    exact hl'

/-- The pairs of the hierarchy have every label with what its declaration extends. The search for
cycles of extension runs over these pairs. -/
theorem Extends.mem_edges (h : s.Extends l l') : (l, l') ∈ (Hierarchy.ofSchema s).edges := by
  have hmem := mem_parentsOf_iff.2 h
  rw [Hierarchy.parentsOf] at hmem
  cases hps : (Hierarchy.ofSchema s).parents.lookup l with
  | none =>
    rw [hps] at hmem
    cases hmem
  | some ps =>
    rw [hps, Option.getD_some] at hmem
    have hentry : (l, ps) ∈ (Hierarchy.ofSchema s).parents := by
      obtain ⟨before, after, heq, -⟩ := List.lookup_eq_some_iff.1 hps
      rw [heq]
      simp
    exact List.mem_flatMap.2 ⟨(l, ps), hentry, List.mem_map.2 ⟨l', hmem, rfl⟩⟩

/-- Declarations of an accepted schema that extend something or are extended are checked. -/
theorem Extends.checkExtendable (hacc : s.analyze R = .ok ()) (h : s.Extends l l') {a : Label}
    (ha : a = l ∨ a = l') {d : ShapeDecl} (hd : s.shape? a = some d) :
    s.checkExtendable a d = .ok () := by
  have hcheck := (analyze_eq_ok_iff.1 hacc).2.2.2.2.1
  rw [checkExtension, bind_eq_ok_iff, bind_eq_ok_iff, bind_eq_ok_iff, forM_eq_ok_iff] at hcheck
  have hentry := hcheck.2.2.2 (a, d) ((Table.get?_eq_some_iff _).1 hd)
  have htouched : (List.flatMap (fun e : Label × Label => [e.1, e.2])
      (Hierarchy.ofSchema s).edges).contains a = true :=
    List.contains_iff_mem.2 (List.mem_flatMap.2 ⟨(l, l'), h.mem_edges, by simpa using ha⟩)
  dsimp only at hentry
  rwa [if_pos htouched] at hentry

/-- What a declaration of an accepted schema extends can be extended: it is declared, and its
declaration has a main shape. Without this check the plan of a label could fail. -/
theorem exists_extendable_of_extends (hacc : s.analyze R = .ok ()) (h : s.Extends l l') :
    ∃ d form, s.shape? l' = some d ∧ d.expr.extendable? = some form := by
  have hextends := h
  obtain ⟨d, form, hd, hform, hl'⟩ := h
  obtain ⟨⟨m, hmain⟩, -⟩ := ShapeExpr.extendable?_eq_some hform
  have hhas := (has_of_shape? hd).main hform
  rw [hmain] at hhas
  obtain ⟨d', hd'⟩ := exists_shape_of_has_parents hacc hhas hl'
  have hcheck := hextends.checkExtendable hacc (.inr rfl) hd'
  rw [Schema.checkExtendable] at hcheck
  cases hform' : d'.expr.extendable? with
  | none =>
    rw [hform'] at hcheck
    cases hcheck
  | some form' => exact ⟨d', form', hd', hform'⟩

/-- A label that extends something has a declaration that can be extended. -/
theorem exists_extendable_of_hasParents (h : (Hierarchy.ofSchema s).hasParents l = true) :
    ∃ d form, s.shape? l = some d ∧ d.expr.extendable? = some form := by
  obtain ⟨ps, hps⟩ := Option.isSome_iff_exists.1 h
  obtain ⟨d, hd, hform, hne⟩ := lookup_parents_iff.1 hps
  cases hx : d.expr.extendable? with
  | none =>
    rw [hx] at hform
    exact absurd hform.symm hne
  | some form => exact ⟨d, form, hd, hx⟩

/-- The ancestors of a label are reached by extension. -/
theorem reflTransGen_of_mem_ancestors {a : Label} (h : a ∈ (Hierarchy.ofSchema s).ancestors l) :
    ReflTransGen s.Extends l a := by
  refine breadthFirst_sound (P := ReflTransGen s.Extends l) ?_ ?_ (by simp) a h
  · exact fun b hb c hc => hb.tail (mem_parentsOf_iff.1 hc)
  · simp [ReflTransGen.refl]

/-- The ancestors of a label that extends something can be extended. -/
theorem exists_extendable_of_mem_ancestors (hacc : s.analyze R = .ok ())
    (h : (Hierarchy.ofSchema s).hasParents l = true) {a : Label}
    (ha : a ∈ (Hierarchy.ofSchema s).ancestors l) :
    ∃ d form, s.shape? a = some d ∧ d.expr.extendable? = some form := by
  cases reflTransGen_of_mem_ancestors ha with
  | refl => exact exists_extendable_of_hasParents h
  | tail _ hlast => exact exists_extendable_of_extends hacc hlast

/-- A declaration depends on its ancestors, through others perhaps. -/
theorem dependsOn_of_mem_ancestors {a : Label} (h : a ∈ (Hierarchy.ofSchema s).ancestors l) :
    ReflTransGen s.DependsOn l a :=
  ReflTransGen.mono (fun _ _ h => h.dependsOn) _ _ (reflTransGen_of_mem_ancestors h)

end Schema

/-- A validator was built from its schema, wherever the counter stands when its forms are made: the
schema was accepted, and the hierarchy is that of the schema. -/
structure Validator.IsBuilt (v : Validator) : Prop where
  accepted : v.IsAccepted
  hierarchy : v.hierarchy = .ofSchema v.schema

/-- What is built from a schema is a validator of that schema with the given readers, and nothing
else is decided by the schema but where its numbering begins. -/
theorem Validator.ofSchema_eq_ok_iff {s : Schema} {R : Readers} {v : Validator} :
    ofSchema s R = .ok v ↔
      v.IsBuilt ∧ v.schema = s ∧ v.readers = R ∧ v.numbering = fun _ => s.freshId := by
  unfold ofSchema
  constructor
  · intro h
    cases hacc : s.analyze R with
    | error e =>
      rw [hacc] at h
      cases h
    | ok _ =>
      rw [hacc] at h
      obtain rfl := Except.ok.inj h
      exact ⟨⟨hacc, rfl⟩, rfl, rfl, rfl⟩
  · obtain ⟨schema, hierarchy, numbering, readers⟩ := v
    rintro ⟨⟨hacc, hhier⟩, hschema, hreaders, hnumbering⟩
    dsimp only [Validator.IsAccepted] at hacc hhier hschema hreaders hnumbering
    subst hhier hschema hreaders hnumbering
    rw [hacc]
    rfl

end Shex
