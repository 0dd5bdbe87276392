import Shex.Proofs.Wellformed

/-!
# The expressions of a schema

`s.Has x` says that the shape expression `x` is written somewhere in the schema: in a declared shape
expression, in the start expression, or in a value expression of a labelled triple expression. With
an expression a schema has its parts, and in a well-formed schema what they refer to is declared.
-/

namespace Shex

/-! ### Nested expressions -/

/-- Every expression is among its nested ones, as the first. -/
theorem ShapeExpr.self_mem_nested (e : ShapeExpr) : e ∈ e.nested := by
  cases e with
  | shape m h t => cases t <;> simp [nested]
  | _ => simp [nested]

/-- What is nested in operands is listed operand by operand. This and the next equation open the
mutual recursion once. -/
theorem ShapeExpr.nestedIn_eq_flatMap (es : List ShapeExpr) : nestedIn es = es.flatMap nested := by
  induction es with
  | nil => rfl
  | cons e es ih => rw [nestedIn, ih, List.flatMap_cons]

/-- The same for the parts of a triple expression. -/
theorem TripleExpr.nestedIn_eq_flatMap (es : List TripleExpr) :
    TripleExpr.nestedIn es = es.flatMap TripleExpr.nested := by
  induction es with
  | nil => rfl
  | cons e es ih => rw [nestedIn, ih, List.flatMap_cons]

section
variable {e x : ShapeExpr} {es : List ShapeExpr} {m : Mark}

/-- A conjunct is nested in the conjunction. -/
theorem ShapeExpr.mem_nested_and (he : e ∈ es) : e ∈ (ShapeExpr.and m es).nested := by
  rw [nested, nestedIn_eq_flatMap]
  exact List.mem_cons_of_mem _ (List.mem_flatMap.2 ⟨e, he, e.self_mem_nested⟩)

/-- A disjunct is nested in the disjunction. -/
theorem ShapeExpr.mem_nested_or (he : e ∈ es) : e ∈ (ShapeExpr.or m es).nested := by
  rw [nested, nestedIn_eq_flatMap]
  exact List.mem_cons_of_mem _ (List.mem_flatMap.2 ⟨e, he, e.self_mem_nested⟩)

/-- What is negated is nested in the negation. -/
theorem ShapeExpr.mem_nested_not : e ∈ (ShapeExpr.not m e).nested := by
  rw [nested]
  exact List.mem_cons_of_mem _ e.self_mem_nested

/-- What is nested in the triple expression of a shape is nested in the shape. -/
theorem ShapeExpr.mem_nested_shape {h : ShapeHeader} {t : TripleExpr} (hx : x ∈ t.nested) :
    x ∈ (ShapeExpr.shape m h (some t)).nested := by
  rw [nested]
  exact List.mem_cons_of_mem _ hx

end

mutual

/-- What is nested in a nested expression is a part of what is nested. As lists, not only as sets:
then identities that are told apart in the whole are told apart in the part. -/
theorem ShapeExpr.nested_sublist :
    ∀ {e x : ShapeExpr}, x ∈ e.nested → x.nested.Sublist e.nested
  | .and m es, x, hx => by
    rw [ShapeExpr.nested] at hx
    rcases List.mem_cons.1 hx with rfl | hx
    · exact .refl _
    · exact (ShapeExpr.nestedIn_sublist hx).cons _
  | .or m es, x, hx => by
    rw [ShapeExpr.nested] at hx
    rcases List.mem_cons.1 hx with rfl | hx
    · exact .refl _
    · exact (ShapeExpr.nestedIn_sublist hx).cons _
  | .not m e, x, hx => by
    rw [ShapeExpr.nested] at hx
    rcases List.mem_cons.1 hx with rfl | hx
    · exact .refl _
    · exact (ShapeExpr.nested_sublist hx).cons _
  | .shape m h (some t), x, hx => by
    rw [ShapeExpr.nested] at hx
    rcases List.mem_cons.1 hx with rfl | hx
    · exact .refl _
    · exact (TripleExpr.nested_sublist hx).cons _
  | .shape m h none, x, hx => by
    obtain rfl : x = .shape m h none := by simpa [ShapeExpr.nested] using hx
    exact .refl _
  | .ref m l, x, hx => by
    obtain rfl : x = .ref m l := by simpa [ShapeExpr.nested] using hx
    exact .refl _
  | .nodeConstraint m c, x, hx => by
    obtain rfl : x = .nodeConstraint m c := by simpa [ShapeExpr.nested] using hx
    exact .refl _
  | .external m, x, hx => by
    obtain rfl : x = .external m := by simpa [ShapeExpr.nested] using hx
    exact .refl _

/-- The same for operands. -/
theorem ShapeExpr.nestedIn_sublist :
    ∀ {es : List ShapeExpr} {x : ShapeExpr}, x ∈ ShapeExpr.nestedIn es →
      x.nested.Sublist (ShapeExpr.nestedIn es)
  | [], x, hx => by simp [ShapeExpr.nestedIn] at hx
  | e :: es, x, hx => by
    rw [ShapeExpr.nestedIn, List.mem_append] at hx
    rcases hx with hx | hx
    · exact (ShapeExpr.nested_sublist hx).trans (List.sublist_append_left _ _)
    · exact (ShapeExpr.nestedIn_sublist hx).trans (List.sublist_append_right _ _)

/-- The same for the value expressions of a triple expression, which are what is nested in it. -/
theorem TripleExpr.nested_sublist :
    ∀ {t : TripleExpr} {x : ShapeExpr}, x ∈ t.nested → x.nested.Sublist t.nested
  | .eachOf m es, x, hx => by
    rw [TripleExpr.nested] at hx ⊢
    exact TripleExpr.nestedIn_sublist hx
  | .oneOf m es, x, hx => by
    rw [TripleExpr.nested] at hx ⊢
    exact TripleExpr.nestedIn_sublist hx
  | .repeated m e c, x, hx => by
    rw [TripleExpr.nested] at hx ⊢
    exact TripleExpr.nested_sublist hx
  | .constraint m a (some v), x, hx => by
    rw [TripleExpr.nested] at hx ⊢
    exact ShapeExpr.nested_sublist hx
  | .constraint m a none, x, hx => by simp [TripleExpr.nested] at hx
  | .ref m l, x, hx => by simp [TripleExpr.nested] at hx
  | .empty m, x, hx => by simp [TripleExpr.nested] at hx

/-- The same for the parts of a triple expression. -/
theorem TripleExpr.nestedIn_sublist :
    ∀ {ts : List TripleExpr} {x : ShapeExpr}, x ∈ TripleExpr.nestedIn ts →
      x.nested.Sublist (TripleExpr.nestedIn ts)
  | [], x, hx => by simp [TripleExpr.nestedIn] at hx
  | t :: ts, x, hx => by
    rw [TripleExpr.nestedIn, List.mem_append] at hx
    rcases hx with hx | hx
    · exact (TripleExpr.nested_sublist hx).trans (List.sublist_append_left _ _)
    · exact (TripleExpr.nestedIn_sublist hx).trans (List.sublist_append_right _ _)

end

/-- What is nested in a nested expression is nested. -/
theorem ShapeExpr.nested_trans {e x y : ShapeExpr} (hx : x ∈ e.nested) (hy : y ∈ x.nested) :
    y ∈ e.nested := (ShapeExpr.nested_sublist hx).subset hy

/-- What is nested in what is nested in a triple expression is nested in it. -/
theorem TripleExpr.nested_trans {t : TripleExpr} {x y : ShapeExpr} (hx : x ∈ t.nested)
    (hy : y ∈ x.nested) : y ∈ t.nested := (TripleExpr.nested_sublist hx).subset hy

/-- No shape is nested in its own triple expression. -/
theorem TripleExpr.shape_notMem_nested {t : TripleExpr} {m : Mark} {h : ShapeHeader} :
    ShapeExpr.shape m h (some t) ∉ t.nested := by
  intro hmem
  have hle := (TripleExpr.nested_sublist hmem).length_le
  rw [ShapeExpr.nested, List.length_cons] at hle
  omega

mutual

/-- What is nested in a triple expression is nested in the value expression of one of its
constraints. -/
theorem TripleExpr.mem_nested_iff :
    ∀ {t : TripleExpr} {x : ShapeExpr},
      x ∈ t.nested ↔ ∃ c ∈ t.constraints, ∃ v, c.value = some v ∧ x ∈ v.nested
  | .eachOf m es, x => by
    rw [TripleExpr.nested, TripleExpr.constraints, TripleExpr.mem_nestedIn_iff]
  | .oneOf m es, x => by
    rw [TripleExpr.nested, TripleExpr.constraints, TripleExpr.mem_nestedIn_iff]
  | .repeated m e c, x => by
    rw [TripleExpr.nested, TripleExpr.constraints, TripleExpr.mem_nested_iff]
  | .constraint m a (some v), x => by simp [TripleExpr.nested, TripleExpr.constraints]
  | .constraint m a none, x => by simp [TripleExpr.nested, TripleExpr.constraints]
  | .ref m l, x => by simp [TripleExpr.nested, TripleExpr.constraints]
  | .empty m, x => by simp [TripleExpr.nested, TripleExpr.constraints]

/-- The same for the parts of a triple expression. -/
theorem TripleExpr.mem_nestedIn_iff :
    ∀ {ts : List TripleExpr} {x : ShapeExpr},
      x ∈ TripleExpr.nestedIn ts ↔
        ∃ c ∈ TripleExpr.constraintsIn ts, ∃ v, c.value = some v ∧ x ∈ v.nested
  | [], x => by simp [TripleExpr.nestedIn, TripleExpr.constraintsIn]
  | t :: ts, x => by
    rw [TripleExpr.nestedIn, TripleExpr.constraintsIn, List.mem_append, TripleExpr.mem_nested_iff,
      TripleExpr.mem_nestedIn_iff]
    simp only [List.mem_append, or_and_right, exists_or]

end

/-! ### Expressions of a schema -/

namespace Schema

/-- The schema has a shape expression somewhere. -/
def Has (s : Schema) (x : ShapeExpr) : Prop :=
  (∃ l d, s.shape? l = some d ∧ x ∈ d.expr.nested) ∨
    (∃ e, s.start = some e ∧ x ∈ e.nested) ∨ ∃ l t, s.tripleExpr? l = some t ∧ x ∈ t.nested

variable {s : Schema} {R : Readers} {x y : ShapeExpr}

/-- With an expression a schema has all that is nested in it. All other closure properties are cases
of this one, except for value expressions behind references (`Schema.Has.of_shape`). -/
theorem Has.of_nested (h : s.Has x) (hy : y ∈ x.nested) : s.Has y := by
  rcases h with ⟨l, d, hl, hx⟩ | ⟨e, he, hx⟩ | ⟨l, t, hl, hx⟩
  · exact .inl ⟨l, d, hl, ShapeExpr.nested_trans hx hy⟩
  · exact .inr (.inl ⟨e, he, ShapeExpr.nested_trans hx hy⟩)
  · exact .inr (.inr ⟨l, t, hl, TripleExpr.nested_trans hx hy⟩)

/-- The schema has what it declares. -/
theorem has_of_shape? {l : Label} {d : ShapeDecl} (h : s.shape? l = some d) : s.Has d.expr :=
  .inl ⟨l, d, h, d.expr.self_mem_nested⟩

/-- The schema has its start expression. -/
theorem has_of_start {e : ShapeExpr} (h : s.start = some e) : s.Has e :=
  .inr (.inl ⟨e, h, e.self_mem_nested⟩)

/-- With a conjunction a schema has its conjuncts. -/
theorem Has.of_and {m : Mark} {es : List ShapeExpr} (h : s.Has (.and m es)) {e : ShapeExpr}
    (he : e ∈ es) : s.Has e := h.of_nested (ShapeExpr.mem_nested_and he)

/-- With a disjunction a schema has its disjuncts. -/
theorem Has.of_or {m : Mark} {es : List ShapeExpr} (h : s.Has (.or m es)) {e : ShapeExpr}
    (he : e ∈ es) : s.Has e := h.of_nested (ShapeExpr.mem_nested_or he)

/-- With a negation a schema has what is negated. -/
theorem Has.of_not {m : Mark} {e : ShapeExpr} (h : s.Has (.not m e)) : s.Has e :=
  h.of_nested ShapeExpr.mem_nested_not

/-- What holds in the value expressions of a triple expression, and in those of labelled ones, holds
in those of every expression that is met in it. -/
theorem nested_of_inside {P : ShapeExpr → Prop} {t u : TripleExpr} {via : List Label}
    (h : s.Inside via t u) (hS : ∀ l e, s.tripleExpr? l = some e → ∀ v ∈ e.nested, P v)
    (ht : ∀ v ∈ t.nested, P v) : ∀ v ∈ u.nested, P v := by
  induction h with
  | self => exact ht
  | eachOf he _ ih =>
    refine ih fun v hv => ht v ?_
    rw [TripleExpr.nested, TripleExpr.nestedIn_eq_flatMap]
    exact List.mem_flatMap.2 ⟨_, he, hv⟩
  | oneOf he _ ih =>
    refine ih fun v hv => ht v ?_
    rw [TripleExpr.nested, TripleExpr.nestedIn_eq_flatMap]
    exact List.mem_flatMap.2 ⟨_, he, hv⟩
  | repeated _ ih =>
    refine ih fun v hv => ht v ?_
    rwa [TripleExpr.nested]
  | @ref m l e x via hl _ ih => exact ih (hS l e hl)

/-- The value expressions that are met in a shape of the schema are expressions of the schema. -/
theorem Has.of_shape {m : Mark} {h : ShapeHeader} {t : TripleExpr}
    (hs : s.Has (.shape m h (some t))) {via : List Label} {m' : TripleMark} {a : Arc}
    {v : ShapeExpr} (hv : s.Inside via t (.constraint m' a (some v))) : s.Has v := by
  refine nested_of_inside (P := s.Has) hv (fun l e hl x hx => .inr (.inr ⟨l, e, hl, hx⟩))
    (fun x hx => hs.of_nested (ShapeExpr.mem_nested_shape hx)) v ?_
  rw [TripleExpr.nested]
  exact v.self_mem_nested

/-- All shape expressions of a schema. -/
def expressions (s : Schema) : List ShapeExpr :=
  s.shapes.values.flatMap (·.expr.nested) ++ s.start.toList.flatMap ShapeExpr.nested ++
    s.tripleExprs.values.flatMap TripleExpr.nested

/-- What the values of a table contribute, in terms of look-ups. -/
theorem mem_flatMap_values {α : Type} {t : Table Label α} {f : α → List ShapeExpr} :
    x ∈ t.values.flatMap f ↔ ∃ l a, t.get? l = some a ∧ x ∈ f a := by
  simp only [List.mem_flatMap, Table.values, List.mem_map, Table.get?_eq_some_iff]
  grind

/-- The expressions of a schema can be listed, so being coherent can be decided for a concrete
schema. -/
theorem has_iff_mem_expressions : s.Has x ↔ x ∈ s.expressions := by
  rw [expressions, List.mem_append, List.mem_append, mem_flatMap_values, mem_flatMap_values,
    or_assoc]
  simp [Has, shape?, tripleExpr?]

/-- Identities tell expressions apart: a node that is used in several places of the schema is the
same in all of them. -/
structure IsCoherent (s : Schema) : Prop where
  shapes : ∀ x y, s.Has x → s.Has y → x.id = y.id → x = y
  triples : ∀ m h t m' h' t', s.Has (.shape m h (some t)) → s.Has (.shape m' h' (some t')) →
    t.id = t'.id → t = t'

/-- A schema is coherent if its expressions are among some that differ by their identities. A node
that is used twice is listed once in `xs`, so sharing is allowed. -/
theorem isCoherent_of_subset {xs : List ShapeExpr} (hsub : s.expressions ⊆ xs)
    (hs : (xs.map ShapeExpr.id).Nodup)
    (ht : ((xs.filterMap fun x => x.shape?.bind Shape.expression).map TripleExpr.id).Nodup) :
    s.IsCoherent := by
  constructor
  · intro x y hx hy hid
    exact List.inj_on_of_nodup_map hs (hsub (has_iff_mem_expressions.1 hx))
      (hsub (has_iff_mem_expressions.1 hy)) hid
  · intro m h t m' h' t' hx hy hid
    exact List.inj_on_of_nodup_map ht
      (List.mem_filterMap.2 ⟨_, hsub (has_iff_mem_expressions.1 hx), rfl⟩)
      (List.mem_filterMap.2 ⟨_, hsub (has_iff_mem_expressions.1 hy), rfl⟩) hid

/-- A schema in which every identity is used once is coherent. -/
theorem isCoherent_of_nodup (hs : (s.expressions.map ShapeExpr.id).Nodup)
    (ht : ((s.expressions.filterMap fun x => x.shape?.bind Shape.expression).map
      TripleExpr.id).Nodup) : s.IsCoherent :=
  isCoherent_of_subset (List.Subset.refl _) hs ht

/-! What the check of references guarantees. -/

/-- In an accepted schema every node has passed the check of its references, wherever it is: the
check goes through the declarations, the start expression, and the value expressions of labelled
triple expressions. -/
theorem checkNodeRefs_of_has (h : s.analyze R = .ok ()) (hx : s.Has x) :
    s.checkNodeRefs x = .ok () := by
  have href := (analyze_eq_ok_iff.1 h).2.1
  rw [checkReferences, bind_eq_ok_iff, bind_eq_ok_iff, forM_eq_ok_iff, forM_eq_ok_iff,
    forM_eq_ok_iff] at href
  obtain ⟨hshapes, hstart, htriples⟩ := href
  rcases hx with ⟨l, d, hl, hx⟩ | ⟨e, he, hx⟩ | ⟨l, t, hl, hx⟩
  · have := hshapes d (List.mem_map.2 ⟨(l, d), (Table.get?_eq_some_iff _).1 hl, rfl⟩)
    exact forM_eq_ok_iff.1 this x hx
  · exact forM_eq_ok_iff.1 (hstart e (by simp [he])) x hx
  · have := htriples t (List.mem_map.2 ⟨(l, t), (Table.get?_eq_some_iff _).1 hl, rfl⟩)
    have hvalues := forM_eq_ok_iff.1 (bind_eq_ok_iff.1 this).2
    obtain ⟨c, hc, v, hv, hx⟩ := TripleExpr.mem_nested_iff.1 hx
    exact forM_eq_ok_iff.1 (hvalues v (List.mem_filterMap.2 ⟨c, hc, hv⟩)) x hx

/-- The patterns of an accepted schema compile. The check goes through the same places as that of
references. -/
theorem checkNodePatterns_of_has (h : s.analyze R = .ok ()) (hx : s.Has x) :
    checkNodePatterns R x = .ok () := by
  have hpatterns := (analyze_eq_ok_iff.1 h).2.2.2.2.2
  rw [checkPatterns, bind_eq_ok_iff, bind_eq_ok_iff, forM_eq_ok_iff, forM_eq_ok_iff,
    forM_eq_ok_iff] at hpatterns
  obtain ⟨hshapes, hstart, htriples⟩ := hpatterns
  rcases hx with ⟨l, d, hl, hx⟩ | ⟨e, he, hx⟩ | ⟨l, t, hl, hx⟩
  · have hmem : d ∈ s.shapes.values := List.mem_map.2 ⟨(l, d), (Table.get?_eq_some_iff _).1 hl, rfl⟩
    exact forM_eq_ok_iff.1 (hshapes d hmem) x hx
  · exact forM_eq_ok_iff.1 (hstart e (by simp [he])) x hx
  · have hmem : t ∈ s.tripleExprs.values :=
      List.mem_map.2 ⟨(l, t), (Table.get?_eq_some_iff _).1 hl, rfl⟩
    exact forM_eq_ok_iff.1 (htriples t hmem) x hx

/-- The check of one reference says that it is declared. -/
theorem requireShape_iff {l : Label} : s.requireShape l = .ok () ↔ ∃ d, s.shape? l = some d := by
  rw [requireShape, shape?, ← Option.isSome_iff_exists, Table.contains]
  split <;> simp_all

/-- References of the schema lead to declarations. -/
theorem exists_shape_of_has_ref (h : s.analyze R = .ok ()) {m : Mark} {l : Label}
    (hx : s.Has (.ref m l)) : ∃ d, s.shape? l = some d :=
  requireShape_iff.1 (checkNodeRefs_of_has h hx)

/-- What a shape of the schema extends is declared. -/
theorem exists_shape_of_has_parents (h : s.analyze R = .ok ()) {m : Mark} {hd : ShapeHeader}
    {t : Option TripleExpr} (hx : s.Has (.shape m hd t)) {l : Label} (hl : l ∈ hd.parents) :
    ∃ d, s.shape? l = some d := by
  have := checkNodeRefs_of_has h hx
  rw [checkNodeRefs, bind_eq_ok_iff, forM_eq_ok_iff] at this
  exact requireShape_iff.1 (this.1 l hl)

/-- What the triple expression of a shape of the schema refers to is declared. -/
theorem refsDeclared_of_has (h : s.analyze R = .ok ()) {m : Mark} {hd : ShapeHeader}
    {t : TripleExpr} (hx : s.Has (.shape m hd (some t))) : s.RefsDeclared t := by
  have := checkNodeRefs_of_has h hx
  rw [checkNodeRefs, bind_eq_ok_iff, forM_eq_ok_iff, forM_eq_ok_iff] at this
  exact checkTripleRefs_iff.1 (this.2 t (by simp))

end Schema

end Shex
