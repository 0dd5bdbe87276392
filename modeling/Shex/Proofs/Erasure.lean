import Shex.Proofs.Correspondence
import Shex.Proofs.Extension
import Shex.Proofs.Shapes

/-!
# Schemas as trees

Without the identities of its nodes, a schema is a tree (`Schema.erase`): a node that is used in
several places is no longer told from nodes that were written separately. Of what the checks of a
schema look at, the tree says all except which node is the main shape of a declaration, and so a
schema in which nothing is extended is accepted if and only if its tree is (`Schema.analyze_erase`).
-/

namespace Shex

/-! ### Erasure -/

/-- A mark without its identity. -/
def Mark.erase (m : Mark) : Mark := ⟨⟨0⟩, m.actions⟩

/-- A mark without its identity and that of its origin. -/
def TripleMark.erase (m : TripleMark) : TripleMark := ⟨m.toMark.erase, m.origin.map Mark.erase⟩

/-- What a copy stands for is erased with the copy. -/
theorem TripleMark.source_erase (m : TripleMark) : m.erase.source = m.source.erase := by
  obtain ⟨m, _ | origin⟩ := m <;> rfl

mutual

/-- A shape expression without identities. -/
def ShapeExpr.erase : ShapeExpr → ShapeExpr
  | .and m es => .and m.erase (ShapeExpr.eraseIn es)
  | .or m es => .or m.erase (ShapeExpr.eraseIn es)
  | .not m e => .not m.erase e.erase
  | .ref m l => .ref m.erase l
  | .shape m h none => .shape m.erase h none
  | .shape m h (some t) => .shape m.erase h (some t.erase)
  | .nodeConstraint m c => .nodeConstraint m.erase c
  | .external m => .external m.erase

/-- The shape expressions of a list without identities. -/
def ShapeExpr.eraseIn : List ShapeExpr → List ShapeExpr
  | [] => []
  | e :: es => e.erase :: ShapeExpr.eraseIn es

/-- A triple expression without identities. -/
def TripleExpr.erase : TripleExpr → TripleExpr
  | .eachOf m es => .eachOf m.erase (TripleExpr.eraseIn es)
  | .oneOf m es => .oneOf m.erase (TripleExpr.eraseIn es)
  | .repeated m e c => .repeated m.erase e.erase c
  | .constraint m a none => .constraint m.erase a none
  | .constraint m a (some v) => .constraint m.erase a (some v.erase)
  | .ref m l => .ref m.erase l
  | .empty m => .empty m.erase

/-- The triple expressions of a list without identities. -/
def TripleExpr.eraseIn : List TripleExpr → List TripleExpr
  | [] => []
  | e :: es => e.erase :: TripleExpr.eraseIn es

end

/-- Erasing the operands one after the other, as the recursion does, is mapping over them. -/
theorem ShapeExpr.eraseIn_eq_map (es : List ShapeExpr) : eraseIn es = es.map erase := by
  induction es with
  | nil => rw [eraseIn, List.map_nil]
  | cons e es ih => rw [eraseIn, ih, List.map_cons]

/-- The same for the parts of a triple expression. -/
theorem TripleExpr.eraseIn_eq_map (es : List TripleExpr) : eraseIn es = es.map erase := by
  induction es with
  | nil => rw [eraseIn, List.map_nil]
  | cons e es ih => rw [eraseIn, ih, List.map_cons]

/-- The two equations for shapes, with and without a triple expression, as one. -/
theorem ShapeExpr.erase_shape (m : Mark) (h : ShapeHeader) (t : Option TripleExpr) :
    erase (.shape m h t) = .shape m.erase h (t.map TripleExpr.erase) := by
  cases t <;> rw [erase] <;> rfl

/-- A triple constraint without identities. -/
def TripleConstraint.erase (c : TripleConstraint) : TripleConstraint :=
  ⟨c.mark.erase, c.arc, c.value.map ShapeExpr.erase⟩

/-- The two equations for constraints, with and without a value expression, as one. -/
theorem TripleExpr.erase_constraint (m : TripleMark) (a : Arc) (v : Option ShapeExpr) :
    erase (.constraint m a v) = .constraint m.erase a (v.map ShapeExpr.erase) := by
  cases v <;> rw [erase] <;> rfl

/-- A declaration without identities. -/
def ShapeDecl.erase (d : ShapeDecl) : ShapeDecl := ⟨d.isAbstract, d.expr.erase⟩

/-! ### What an erased expression contains -/

mutual

/-- Erasure goes through to the nested expressions. With this lemma and the next ones a check
that runs over nested expressions is compared node by node, and no later proof recurs over
expressions. -/
theorem ShapeExpr.nested_erase : ∀ e : ShapeExpr, e.erase.nested = e.nested.map ShapeExpr.erase
  | .and m es => by
    rw [ShapeExpr.nested, List.map_cons, ShapeExpr.erase, ShapeExpr.nested,
      ShapeExpr.nestedIn_erase]
  | .or m es => by
    rw [ShapeExpr.nested, List.map_cons, ShapeExpr.erase, ShapeExpr.nested,
      ShapeExpr.nestedIn_erase]
  | .not m e => by
    rw [ShapeExpr.nested, List.map_cons, ShapeExpr.erase, ShapeExpr.nested, e.nested_erase]
  | .ref m l => by simp [ShapeExpr.nested, ShapeExpr.erase]
  | .shape m h none => by simp [ShapeExpr.nested, ShapeExpr.erase]
  | .shape m h (some t) => by
    rw [ShapeExpr.nested, List.map_cons, ShapeExpr.erase, ShapeExpr.nested, t.nested_erase]
  | .nodeConstraint m c => by simp [ShapeExpr.nested, ShapeExpr.erase]
  | .external m => by simp [ShapeExpr.nested, ShapeExpr.erase]

/-- The same for operands. -/
theorem ShapeExpr.nestedIn_erase : ∀ es : List ShapeExpr,
    ShapeExpr.nestedIn (ShapeExpr.eraseIn es) = (ShapeExpr.nestedIn es).map ShapeExpr.erase
  | [] => by rw [ShapeExpr.eraseIn, ShapeExpr.nestedIn, List.map_nil]
  | e :: es => by
    rw [ShapeExpr.eraseIn, ShapeExpr.nestedIn, ShapeExpr.nestedIn, List.map_append,
      e.nested_erase, ShapeExpr.nestedIn_erase es]

/-- The same for what is nested in the value expressions of a triple expression. -/
theorem TripleExpr.nested_erase : ∀ e : TripleExpr, e.erase.nested = e.nested.map ShapeExpr.erase
  | .eachOf m es => by
    rw [TripleExpr.erase, TripleExpr.nested, TripleExpr.nested, TripleExpr.nestedIn_erase]
  | .oneOf m es => by
    rw [TripleExpr.erase, TripleExpr.nested, TripleExpr.nested, TripleExpr.nestedIn_erase]
  | .repeated m e c => by
    rw [TripleExpr.erase, TripleExpr.nested, TripleExpr.nested, e.nested_erase]
  | .constraint m a none => by simp [TripleExpr.nested, TripleExpr.erase]
  | .constraint m a (some v) => by
    rw [TripleExpr.erase, TripleExpr.nested, TripleExpr.nested, v.nested_erase]
  | .ref m l => by simp [TripleExpr.nested, TripleExpr.erase]
  | .empty m => by simp [TripleExpr.nested, TripleExpr.erase]

/-- The same for the parts of a triple expression. -/
theorem TripleExpr.nestedIn_erase : ∀ es : List TripleExpr,
    TripleExpr.nestedIn (TripleExpr.eraseIn es) = (TripleExpr.nestedIn es).map ShapeExpr.erase
  | [] => by rw [TripleExpr.eraseIn, TripleExpr.nestedIn, List.map_nil]
  | e :: es => by
    rw [TripleExpr.eraseIn, TripleExpr.nestedIn, TripleExpr.nestedIn, List.map_append,
      e.nested_erase, TripleExpr.nestedIn_erase es]

end

namespace TripleExpr

mutual

/-- The constraints of an erased expression, in the same order. -/
theorem constraints_erase : ∀ e : TripleExpr,
    e.erase.constraints = e.constraints.map TripleConstraint.erase
  | .eachOf m es => by rw [erase, constraints, constraints, constraintsIn_erase]
  | .oneOf m es => by rw [erase, constraints, constraints, constraintsIn_erase]
  | .repeated m e c => by rw [erase, constraints, constraints, e.constraints_erase]
  | .constraint m a v => by
    rw [erase_constraint, constraints, constraints]
    rfl
  | .ref m l => by rw [erase, constraints, constraints, List.map_nil]
  | .empty m => by rw [erase, constraints, constraints, List.map_nil]

/-- The same for the parts of a triple expression. -/
theorem constraintsIn_erase : ∀ es : List TripleExpr,
    constraintsIn (eraseIn es) = (constraintsIn es).map TripleConstraint.erase
  | [] => by rw [eraseIn, constraintsIn, List.map_nil]
  | e :: es => by
    rw [eraseIn, constraintsIn, constraintsIn, List.map_append, e.constraints_erase,
      constraintsIn_erase es]

end

/-- The value expressions of an erased expression, in the same order. -/
theorem values_erase (e : TripleExpr) : e.erase.values = e.values.map ShapeExpr.erase := by
  rw [values, values, constraints_erase, List.filterMap_map, List.map_filterMap]
  rfl

mutual

/-- References are labels, which erasure leaves as they are. -/
theorem refs_erase : ∀ e : TripleExpr, e.erase.refs = e.refs
  | .eachOf m es => by rw [erase, refs, refs, refsIn_erase]
  | .oneOf m es => by rw [erase, refs, refs, refsIn_erase]
  | .repeated m e c => by rw [erase, refs, refs, e.refs_erase]
  | .constraint m a v => by rw [erase_constraint, refs, refs]
  | .ref m l => by rw [erase, refs, refs]
  | .empty m => by rw [erase, refs, refs]

/-- The same for the parts of a triple expression. -/
theorem refsIn_erase : ∀ es : List TripleExpr, refsIn (eraseIn es) = refsIn es
  | [] => by rw [eraseIn]
  | e :: es => by rw [eraseIn, refsIn, refsIn, e.refs_erase, refsIn_erase es]

end

end TripleExpr

namespace ShapeExpr

mutual

/-- References that are met without going through a shape are left as they are. -/
theorem directRefs_erase : ∀ e : ShapeExpr, e.erase.directRefs = e.directRefs
  | .and m es => by rw [erase, directRefs, directRefs, directRefsIn_erase]
  | .or m es => by rw [erase, directRefs, directRefs, directRefsIn_erase]
  | .not m e => by rw [erase, directRefs, directRefs, e.directRefs_erase]
  | .ref m l => by rw [erase, directRefs, directRefs]
  | .shape m h t => by rw [erase_shape, directRefs, directRefs]
  | .nodeConstraint m c => by rw [erase, directRefs, directRefs]
  | .external m => by rw [erase, directRefs, directRefs]

/-- The same for operands. -/
theorem directRefsIn_erase : ∀ es : List ShapeExpr, directRefsIn (eraseIn es) = directRefsIn es
  | [] => by rw [eraseIn]
  | e :: es => by
    rw [eraseIn, directRefsIn, directRefsIn, e.directRefs_erase, directRefsIn_erase es]

end

end ShapeExpr

section
variable {enter : List Iri → Polarity → Label → Dependencies}

mutual

/-- Dependencies are labels with signs, and the signs come from negations and extra predicates:
identities have no part in it. What is entered behind a reference is the same function on both
sides. -/
theorem ShapeExpr.dependencies_erase : ∀ (e : ShapeExpr) (p : Polarity),
    e.erase.dependencies enter p = e.dependencies enter p
  | .and m es, p => by
    rw [ShapeExpr.erase, ShapeExpr.dependencies, ShapeExpr.dependencies,
      ShapeExpr.dependenciesIn_erase]
  | .or m es, p => by
    rw [ShapeExpr.erase, ShapeExpr.dependencies, ShapeExpr.dependencies,
      ShapeExpr.dependenciesIn_erase]
  | .not m e, p => by
    rw [ShapeExpr.erase, ShapeExpr.dependencies, ShapeExpr.dependencies, e.dependencies_erase]
  | .ref m l, p => by rw [ShapeExpr.erase, ShapeExpr.dependencies, ShapeExpr.dependencies]
  | .shape m h none, p => by rw [ShapeExpr.erase, ShapeExpr.dependencies, ShapeExpr.dependencies]
  | .shape m h (some t), p => by
    rw [ShapeExpr.erase, ShapeExpr.dependencies, ShapeExpr.dependencies, t.dependencies_erase]
  | .nodeConstraint m c, p => by
    rw [ShapeExpr.erase, ShapeExpr.dependencies, ShapeExpr.dependencies]
  | .external m, p => by rw [ShapeExpr.erase, ShapeExpr.dependencies, ShapeExpr.dependencies]

/-- The same for operands. -/
theorem ShapeExpr.dependenciesIn_erase : ∀ (es : List ShapeExpr) (p : Polarity),
    ShapeExpr.dependenciesIn enter p (ShapeExpr.eraseIn es) = ShapeExpr.dependenciesIn enter p es
  | [], p => by rw [ShapeExpr.eraseIn]
  | e :: es, p => by
    rw [ShapeExpr.eraseIn, ShapeExpr.dependenciesIn, ShapeExpr.dependenciesIn,
      e.dependencies_erase, ShapeExpr.dependenciesIn_erase es]

/-- The same for triple expressions. -/
theorem TripleExpr.dependencies_erase : ∀ (e : TripleExpr) (extra : List Iri) (p : Polarity),
    e.erase.dependencies enter extra p = e.dependencies enter extra p
  | .eachOf m es, extra, p => by
    rw [TripleExpr.erase, TripleExpr.dependencies, TripleExpr.dependencies,
      TripleExpr.dependenciesIn_erase]
  | .oneOf m es, extra, p => by
    rw [TripleExpr.erase, TripleExpr.dependencies, TripleExpr.dependencies,
      TripleExpr.dependenciesIn_erase]
  | .repeated m e c, extra, p => by
    rw [TripleExpr.erase, TripleExpr.dependencies, TripleExpr.dependencies, e.dependencies_erase]
  | .constraint m a none, extra, p => by
    rw [TripleExpr.erase, TripleExpr.dependencies, TripleExpr.dependencies]
  | .constraint m a (some v), extra, p => by
    rw [TripleExpr.erase, TripleExpr.dependencies, TripleExpr.dependencies, v.dependencies_erase]
  | .ref m l, extra, p => by
    rw [TripleExpr.erase, TripleExpr.dependencies, TripleExpr.dependencies]
  | .empty m, extra, p => by
    rw [TripleExpr.erase, TripleExpr.dependencies, TripleExpr.dependencies]

/-- The same for the parts of a triple expression. -/
theorem TripleExpr.dependenciesIn_erase :
    ∀ (es : List TripleExpr) (extra : List Iri) (p : Polarity),
      TripleExpr.dependenciesIn enter extra p (TripleExpr.eraseIn es) =
        TripleExpr.dependenciesIn enter extra p es
  | [], extra, p => by rw [TripleExpr.eraseIn]
  | e :: es, extra, p => by
    rw [TripleExpr.eraseIn, TripleExpr.dependenciesIn, TripleExpr.dependenciesIn,
      e.dependencies_erase, TripleExpr.dependenciesIn_erase es]

end

end

/-! ### Erased schemas -/

namespace Table

variable {κ α β : Type} [DecidableEq κ]

/-- The table with other values. -/
def mapValues (f : α → β) (t : Table κ α) : Table κ β where
  entries := t.entries.map fun e => (e.1, f e.2)
  keys_nodup := by
    rw [List.map_map]
    exact t.keys_nodup

variable (f : α → β) (t : Table κ α)

/-- The keys stay, in their order. -/
theorem keys_mapValues : (t.mapValues f).keys = t.keys := by
  rw [keys, keys, mapValues, List.map_map]
  rfl

/-- The values are mapped where they stand. -/
theorem values_mapValues : (t.mapValues f).values = t.values.map f := by
  rw [values, values, mapValues, List.map_map, List.map_map]
  rfl

/-- No entry is added or lost. -/
theorem size_mapValues : (t.mapValues f).size = t.size := List.length_map _

/-- A look-up finds the mapped value, under the same key. -/
theorem get?_mapValues (k : κ) : (t.mapValues f).get? k = (t.get? k).map f := by
  change lookupEntry k (t.entries.map fun e => (e.1, f e.2)) = (lookupEntry k t.entries).map f
  induction t.entries with
  | nil => rfl
  | cons e rest ih =>
    rw [List.map_cons, lookupEntry, lookupEntry, ih]
    split <;> rfl

/-- A key is known before if and only if it is known afterwards. -/
theorem contains_mapValues (k : κ) : (t.mapValues f).contains k = t.contains k := by
  rw [contains, contains, get?_mapValues, Option.isSome_map]

end Table

namespace Schema

/-- A schema without identities. -/
def erase (s : Schema) : Schema where
  shapes := s.shapes.mapValues ShapeDecl.erase
  tripleExprs := s.tripleExprs.mapValues TripleExpr.erase
  start := s.start.map ShapeExpr.erase
  startActions := s.startActions
  imports := s.imports

variable (s : Schema)

/-- A declaration of the erased schema is the erased declaration. -/
theorem shape?_erase (l : Label) : s.erase.shape? l = (s.shape? l).map ShapeDecl.erase :=
  s.shapes.get?_mapValues _ l

/-- A labelled triple expression of the erased schema is the erased one. -/
theorem tripleExpr?_erase (l : Label) :
    s.erase.tripleExpr? l = (s.tripleExpr? l).map TripleExpr.erase :=
  s.tripleExprs.get?_mapValues _ l

/-- The bound on how deep labelled triple expressions are entered is the same. -/
theorem size_erase : s.erase.tripleExprs.size = s.tripleExprs.size :=
  s.tripleExprs.size_mapValues _

/-- The same shapes are declared. -/
theorem shapes_contains_erase (l : Label) : s.erase.shapes.contains l = s.shapes.contains l :=
  s.shapes.contains_mapValues _ l

/-- The same triple expressions are declared. -/
theorem tripleExprs_contains_erase (l : Label) :
    s.erase.tripleExprs.contains l = s.tripleExprs.contains l :=
  s.tripleExprs.contains_mapValues _ l

/-- The declarations of the erased schema, in order. -/
theorem shapes_values_erase : s.erase.shapes.values = s.shapes.values.map ShapeDecl.erase :=
  s.shapes.values_mapValues _

/-- The labelled triple expressions of the erased schema, in order. -/
theorem tripleExprs_values_erase :
    s.erase.tripleExprs.values = s.tripleExprs.values.map TripleExpr.erase :=
  s.tripleExprs.values_mapValues _

/-- The start expression of the erased schema, as the checks go through it: as a list of at most
one. -/
theorem start_toList_erase : s.erase.start.toList = s.start.toList.map ShapeExpr.erase := by
  change (s.start.map ShapeExpr.erase).toList = _
  cases s.start <;> rfl

/-- The expressions of the erased schema are those of the schema, without identities. -/
theorem expressions_erase : s.erase.expressions = s.expressions.map ShapeExpr.erase := by
  have hshapes : ∀ d : ShapeDecl, d.erase.expr.nested = d.expr.nested.map ShapeExpr.erase :=
    fun d => d.expr.nested_erase
  simp only [expressions, shapes_values_erase, tripleExprs_values_erase, start_toList_erase,
    List.flatMap_map, List.map_append, List.map_flatMap, hshapes, ShapeExpr.nested_erase,
    TripleExpr.nested_erase]

/-- What the erased schema has is the erasure of something the schema has. Two different nodes may
have the same erasure, so the converse names some node and not the node. -/
theorem has_erase_iff {x : ShapeExpr} : s.erase.Has x ↔ ∃ y, s.Has y ∧ y.erase = x := by
  simp only [has_iff_mem_expressions, expressions_erase, List.mem_map]

/-! ### Checks of an erased schema -/

/-- A check of the elements of a list is a check of what they are mapped to. -/
theorem forM_map_congr {α β ε : Type} {f : β → Except ε Unit} {g : α → Except ε Unit} {k : α → β}
    (h : ∀ a, f (k a) = g a) (as : List α) : (as.map k).forM f = as.forM g := by
  rw [List.forM_eq_forM, List.forM_eq_forM, List.forM_map]
  simp only [h]

/-- No label is declared twice, or the same one is: the check looks at labels only. -/
theorem checkDistinctLabels_erase : s.erase.checkDistinctLabels = s.checkDistinctLabels := by
  have hkeys : s.erase.tripleExprs.keys = s.tripleExprs.keys := s.tripleExprs.keys_mapValues _
  simp only [checkDistinctLabels, hkeys, shapes_contains_erase]

/-- The references of a triple expression are declared, or the same one is not. -/
theorem checkTripleRefs_erase (e : TripleExpr) :
    s.erase.checkTripleRefs e.erase = s.checkTripleRefs e := by
  have hrequire : s.erase.requireTripleExpr = s.requireTripleExpr := by
    funext l
    rw [requireTripleExpr, requireTripleExpr, tripleExprs_contains_erase]
  rw [checkTripleRefs, checkTripleRefs, hrequire, e.refs_erase]

/-- The references at one node, by cases on the node: a reference, a shape, or anything else, which
has none. -/
theorem checkNodeRefs_erase (e : ShapeExpr) :
    s.erase.checkNodeRefs e.erase = s.checkNodeRefs e := by
  have hrequire : s.erase.requireShape = s.requireShape := by
    funext l
    rw [requireShape, requireShape, shapes_contains_erase]
  cases e with
  | ref m l => rw [ShapeExpr.erase, checkNodeRefs, checkNodeRefs, hrequire]
  | shape m h t =>
    have ht : (t.map TripleExpr.erase).toList.forM s.erase.checkTripleRefs =
        t.toList.forM s.checkTripleRefs := by
      have hmap : (t.map TripleExpr.erase).toList = t.toList.map TripleExpr.erase := by
        cases t <;> rfl
      rw [hmap, forM_map_congr s.checkTripleRefs_erase]
    rw [ShapeExpr.erase_shape, checkNodeRefs, checkNodeRefs, hrequire, ht]
  | and | or | not | nodeConstraint | external => rw [ShapeExpr.erase]; rfl

/-- The references in a shape expression, from those at its nodes. -/
theorem checkShapeRefs_erase (e : ShapeExpr) :
    s.erase.checkShapeRefs e.erase = s.checkShapeRefs e := by
  rw [checkShapeRefs, checkShapeRefs, e.nested_erase, forM_map_congr s.checkNodeRefs_erase]

/-- The check of a labelled triple expression with its value expressions. -/
theorem checkLabelled_erase (e : TripleExpr) : (do
    s.erase.checkTripleRefs e.erase
    e.erase.values.forM s.erase.checkShapeRefs) = (do
    s.checkTripleRefs e
    e.values.forM s.checkShapeRefs) := by
  rw [checkTripleRefs_erase, e.values_erase, forM_map_congr s.checkShapeRefs_erase]

/-- The check of all references has the same outcome, with the same label in its fault: declarations
are gone through in the same order. -/
theorem checkReferences_erase : s.erase.checkReferences = s.checkReferences := by
  have hshapes : ∀ ds : List ShapeDecl,
      (ds.map ShapeDecl.erase).forM (fun d => s.erase.checkShapeRefs d.expr) =
        ds.forM fun d => s.checkShapeRefs d.expr :=
    forM_map_congr fun d => s.checkShapeRefs_erase d.expr
  rw [checkReferences, checkReferences, shapes_values_erase, tripleExprs_values_erase,
    start_toList_erase, hshapes, forM_map_congr s.checkShapeRefs_erase]
  exact congrArg _ (funext fun _ => congrArg _ (funext fun _ =>
    forM_map_congr s.checkLabelled_erase _))

/-- The graphs of direct references are the same, so the same cycles are found in them. -/
theorem checkDirectCycles_erase : s.erase.checkDirectCycles = s.checkDirectCycles := by
  have hshapes : s.erase.directShapeGraph = s.directShapeGraph := by
    simp only [directShapeGraph, erase, Table.mapValues, List.foldl_map, ShapeDecl.erase,
      ShapeExpr.directRefs_erase]
  have htriples : s.erase.directTripleGraph = s.directTripleGraph := by
    simp only [directTripleGraph, erase, Table.mapValues, List.foldl_map, TripleExpr.refs_erase]
  rw [checkDirectCycles, checkDirectCycles, hshapes, htriples]

/-- What is collected behind a labelled triple expression is the same at every depth, by induction
on the depth: this closes the recursion that `ShapeExpr.dependencies_erase` leaves open. -/
theorem enterTripleExpr_erase (depth : Nat) :
    s.erase.enterTripleExpr depth = s.enterTripleExpr depth := by
  induction depth with
  | zero =>
    funext path extra p l
    rw [enterTripleExpr, enterTripleExpr]
  | succ depth ih =>
    funext path extra p l
    rw [enterTripleExpr, enterTripleExpr, tripleExpr?_erase, ih]
    cases s.tripleExpr? l with
    | none => rfl
    | some e => simp only [Option.map_some, TripleExpr.dependencies_erase]

/-- The graphs of dependencies are the same, so the same negative cycles are found in them. -/
theorem checkStratification_erase : s.erase.checkStratification = s.checkStratification := by
  have hgraph : s.erase.dependencyGraph = s.dependencyGraph := by
    have hdeps : ∀ e : ShapeExpr, s.erase.dependencies e.erase = s.dependencies e := fun e => by
      rw [dependencies, dependencies, size_erase, enterTripleExpr_erase, e.dependencies_erase]
    have hentries : s.erase.shapes.entries = s.shapes.entries.map fun e => (e.1, e.2.erase) := rfl
    rw [dependencyGraph, dependencyGraph, hentries, List.foldl_map]
    simp only [ShapeDecl.erase, hdeps]
  rw [checkStratification, checkStratification, hgraph]

/-- The same patterns are compiled, in the same order, by whatever compiles them. Patterns stand in
node constraints, which erasure keeps as they are. -/
theorem checkPatterns_erase (R : Readers) : s.erase.checkPatterns R = s.checkPatterns R := by
  have hnode : ∀ e : ShapeExpr, checkNodePatterns R e.erase = checkNodePatterns R e := by
    intro e
    cases e with
    | shape => rw [ShapeExpr.erase_shape]; rfl
    | and | or | not | ref | nodeConstraint | external => rw [ShapeExpr.erase]; rfl
  have hexpr : ∀ e : ShapeExpr, e.erase.nested.forM (checkNodePatterns R) =
      e.nested.forM (checkNodePatterns R) := fun e => by
    rw [e.nested_erase, forM_map_congr hnode]
  have hshapes : ∀ ds : List ShapeDecl,
      (ds.map ShapeDecl.erase).forM (fun d => d.expr.nested.forM (checkNodePatterns R)) =
        ds.forM fun d => d.expr.nested.forM (checkNodePatterns R) :=
    forM_map_congr fun d => hexpr d.expr
  have hexprs : ∀ es : List ShapeExpr,
      (es.map ShapeExpr.erase).forM (fun e => e.nested.forM (checkNodePatterns R)) =
        es.forM fun e => e.nested.forM (checkNodePatterns R) :=
    forM_map_congr hexpr
  have htriples : ∀ es : List TripleExpr,
      (es.map TripleExpr.erase).forM (fun e => e.nested.forM (checkNodePatterns R)) =
        es.forM fun e => e.nested.forM (checkNodePatterns R) :=
    forM_map_congr fun e => by rw [e.nested_erase, forM_map_congr hnode]
  rw [checkPatterns, checkPatterns, shapes_values_erase, tripleExprs_values_erase,
    start_toList_erase, hshapes, hexprs, htriples]

variable {s}

/-- No shape of the schema extends others. -/
def ExtendsNothing (s : Schema) : Prop := ∀ m h t, s.Has (.shape m h t) → h.parents = []

namespace ExtendsNothing

variable (h : s.ExtendsNothing)
include h

/-- If the schema extends nothing, neither does its tree: headers are kept as they are. -/
theorem erase : s.erase.ExtendsNothing := by
  intro m hd t hx
  obtain ⟨y, hy, hxy⟩ := s.has_erase_iff.1 hx
  cases y with
  | shape m' hd' t' =>
    rw [ShapeExpr.erase_shape] at hxy
    cases hxy
    exact h m' hd t' hy
  | and | or | not | ref | nodeConstraint | external =>
    rw [ShapeExpr.erase] at hxy
    cases hxy

/-- Whatever the main shape of a declaration is, nothing beside it extends anything. This is the
one check that asks for the identity of a node, and without extension its answer does not depend on
it. -/
theorem parentsBeside_eq_nil {e : ShapeExpr} (he : s.Has e) (main : Option ExprId) :
    parentsBeside main e = [] := by
  refine List.flatMap_eq_nil_iff.2 fun x hx => ?_
  split
  · rfl
  · cases x with
    | shape m hd t => exact h m hd t (he.of_nested hx)
    | and | or | not | ref | nodeConstraint | external => rfl

/-- The hierarchy is empty. -/
theorem hierarchy_eq : Hierarchy.ofSchema s = ⟨[]⟩ := by
  rw [Hierarchy.ofSchema, Hierarchy.mk.injEq, List.filterMap_eq_nil_iff]
  intro x hx
  have hhas : s.Has x.2.expr := has_of_shape? ((Table.get?_eq_some_iff _).2 hx)
  have hnil : x.2.expr.extendable?.elim [] (·.shape.header.parents) = [] := by
    cases hform : x.2.expr.extendable? with
    | none => rfl
    | some form =>
      obtain ⟨⟨m, hmain⟩, -⟩ := ShapeExpr.extendable?_eq_some hform
      exact h m _ _ (hmain ▸ hhas.main hform)
  simp [hnil]

/-- Nothing is refused for the sake of extension: not a place, not the start expression, and no
cycle, the hierarchy being empty. -/
theorem checkExtension_eq_ok : s.checkExtension = .ok () := by
  have hplaces : s.checkExtensionPlaces = .ok () := by
    refine forM_eq_ok_iff.2 fun x hx => ?_
    have hhas : s.Has x.2.expr := has_of_shape? ((Table.get?_eq_some_iff _).2 hx)
    simp [h.parentsBeside_eq_nil hhas]
  have hstart : s.checkStartExtension = .ok () := by
    rw [checkStartExtension, List.flatMap_eq_nil_iff.2]
    · rfl
    · intro e he
      exact h.parentsBeside_eq_nil (has_of_start (Option.mem_toList.1 he)) none
  rw [checkExtension, hplaces, hstart, h.hierarchy_eq]
  exact forM_eq_ok_iff.2 fun x _ => rfl

end ExtendsNothing

/-- The checks of a schema in which nothing is extended have the outcome of the checks of its
tree. -/
theorem analyze_erase (h : s.ExtendsNothing) (R : Readers) : s.erase.analyze R = s.analyze R := by
  rw [analyze, analyze, checkDistinctLabels_erase, checkReferences_erase, checkDirectCycles_erase,
    checkStratification_erase, checkPatterns_erase, h.checkExtension_eq_ok,
    h.erase.checkExtension_eq_ok]

end Schema

end Shex
