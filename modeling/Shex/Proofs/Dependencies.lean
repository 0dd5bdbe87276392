import Mathlib.Data.List.Perm.Subperm
import Shex.Proofs.Wellformed

/-!
# Dependencies have those of the parts

The dependencies of a shape expression, after the labelled triple expressions of a path have been
entered, have those of its parts: with the same sign for operands, with the other sign for a negated
expression, and for a value expression with the other sign if its predicate is extra. For value
expressions behind references this holds as long as none of the labels is entered again; the bound
on the number of entered labels is then never met.
-/

namespace Shex.Schema

variable {s : Schema} {path via : List Label} {p : Polarity} {x : Label × Polarity}

/-- Labelled triple expressions that are entered one inside the other, none of them twice. -/
structure IsPath (s : Schema) (path : List Label) : Prop where
  nodup : path.Nodup
  declared : ∀ l ∈ path, ∃ e, s.tripleExpr? l = some e

/-- The empty path: nothing has been entered. -/
theorem isPath_nil : s.IsPath [] := ⟨List.nodup_nil, by simp⟩

/-- A path goes on with a declared label that is not on it. -/
theorem IsPath.cons {l : Label} {e : TripleExpr} (h : s.IsPath path) (hl : s.tripleExpr? l = some e)
    (hnew : l ∉ path) : s.IsPath (l :: path) :=
  ⟨List.nodup_cons.2 ⟨hnew, h.nodup⟩, List.forall_mem_cons.2 ⟨⟨e, hl⟩, h.declared⟩⟩

/-- A path is not longer than there are labelled triple expressions. -/
theorem IsPath.length_le (h : s.IsPath path) : path.length ≤ s.tripleExprs.size := by
  have hsub : path ⊆ s.tripleExprs.keys := fun l hl => by
    obtain ⟨e, he⟩ := h.declared l hl
    exact List.mem_map.2 ⟨(l, e), (Table.get?_eq_some_iff _).1 he, rfl⟩
  have := (List.subperm_of_subset h.nodup hsub).length_le
  rwa [Table.keys, List.length_map] at this

/-- The dependencies of an expression in a context of the given sign, after the labels of a path
have been entered, the latest first. -/
def dependenciesAfter (s : Schema) (path : List Label) (p : Polarity) (e : ShapeExpr) :
    Dependencies :=
  e.dependencies (s.enterTripleExpr (s.tripleExprs.size - path.length) path) p

/-- At the start of the collection nothing has been entered. -/
theorem dependenciesAfter_nil (e : ShapeExpr) :
    s.dependenciesAfter [] .positive e = s.dependencies e := rfl

/-- The dependencies of several shape expressions are those of each. By induction along the list,
with the expressions themselves left closed. -/
theorem mem_dependenciesIn {enter : List Iri → Polarity → Label → Dependencies}
    {es : List ShapeExpr} :
    x ∈ ShapeExpr.dependenciesIn enter p es ↔ ∃ e ∈ es, x ∈ e.dependencies enter p := by
  induction es with
  | nil => simp [ShapeExpr.dependenciesIn]
  | cons e es ih => simp [ShapeExpr.dependenciesIn, ih]

/-- The dependencies of several triple expressions are those of each. -/
theorem mem_dependenciesIn_triple {enter : List Iri → Polarity → Label → Dependencies}
    {extra : List Iri} {es : List TripleExpr} :
    x ∈ TripleExpr.dependenciesIn enter extra p es ↔
      ∃ e ∈ es, x ∈ e.dependencies enter extra p := by
  induction es with
  | nil => simp [TripleExpr.dependenciesIn]
  | cons e es ih => simp [TripleExpr.dependenciesIn, ih]

/-- A conjunction depends on what its conjuncts depend on, with the same sign. -/
theorem mem_dependenciesAfter_and {m : Mark} {es : List ShapeExpr} :
    x ∈ s.dependenciesAfter path p (.and m es) ↔ ∃ e ∈ es, x ∈ s.dependenciesAfter path p e := by
  rw [dependenciesAfter, ShapeExpr.dependencies, mem_dependenciesIn]
  rfl

/-- A disjunction depends on what its disjuncts depend on, with the same sign. -/
theorem mem_dependenciesAfter_or {m : Mark} {es : List ShapeExpr} :
    x ∈ s.dependenciesAfter path p (.or m es) ↔ ∃ e ∈ es, x ∈ s.dependenciesAfter path p e := by
  rw [dependenciesAfter, ShapeExpr.dependencies, mem_dependenciesIn]
  rfl

/-- A negation turns the sign. -/
theorem dependenciesAfter_not {m : Mark} {e : ShapeExpr} :
    s.dependenciesAfter path p (.not m e) = s.dependenciesAfter path p.flip e := by
  rw [dependenciesAfter, ShapeExpr.dependencies, dependenciesAfter]

/-- A reference is a dependency with the sign at which it stands. The shape behind it is not looked
into: it has its own node in the graph. -/
theorem dependenciesAfter_ref {m : Mark} {l : Label} :
    s.dependenciesAfter path p (.ref m l) = [(l, p)] := by
  rw [dependenciesAfter, ShapeExpr.dependencies]

/-- A shape depends on what it extends. -/
theorem mem_dependenciesAfter_of_parent {m : Mark} {h : ShapeHeader} {t : Option TripleExpr}
    {l : Label} (hl : l ∈ h.parents) : (l, p) ∈ s.dependenciesAfter path p (.shape m h t) := by
  rw [dependenciesAfter]
  cases t with
  | none =>
    rw [ShapeExpr.dependencies]
    exact List.mem_map.2 ⟨l, hl, rfl⟩
  | some t =>
    rw [ShapeExpr.dependencies]
    exact List.mem_append_left _ (List.mem_map.2 ⟨l, hl, rfl⟩)

/-- The sign of a value expression in a shape with the given extra predicates. -/
def valueSign (extra : List Iri) (p : Polarity) (a : Arc) : Polarity :=
  if extra.contains a.predicate then p.flip else p

/-- The dependencies of a triple expression have those of a value expression that is met in it. The
labels that are entered on the way make a path, so none of them stops the collection. -/
theorem mem_dependencies_of_inside {extra : List Iri} {t y : TripleExpr}
    (hin : s.Inside via t y) :
    ∀ {path : List Label} {m : TripleMark} {a : Arc} {v : ShapeExpr},
      y = .constraint m a (some v) → s.IsPath (via.reverse ++ path) →
      x ∈ s.dependenciesAfter (via.reverse ++ path) (valueSign extra p a) v →
      x ∈ t.dependencies (s.enterTripleExpr (s.tripleExprs.size - path.length) path) extra p := by
  induction hin with
  | self e =>
    rintro path m a v rfl _ hx
    rwa [TripleExpr.dependencies]
  | eachOf he _ ih =>
    intro path m a v hy hpath hx
    rw [TripleExpr.dependencies, mem_dependenciesIn_triple]
    exact ⟨_, he, ih hy hpath hx⟩
  | oneOf he _ ih =>
    intro path m a v hy hpath hx
    rw [TripleExpr.dependencies, mem_dependenciesIn_triple]
    exact ⟨_, he, ih hy hpath hx⟩
  | repeated _ ih =>
    intro path m a v hy hpath hx
    rw [TripleExpr.dependencies]
    exact ih hy hpath hx
  | @ref _ l e _ via hl _ ih =>
    intro path m a v hy hpath hx
    have happend : (l :: via).reverse ++ path = via.reverse ++ (l :: path) := by simp
    rw [happend] at hpath hx
    have hdeps := ih hy hpath hx
    have hpath' : s.IsPath (l :: path) :=
      ⟨(List.nodup_append.1 hpath.nodup).2.1,
        fun l' hl' => hpath.declared l' (List.mem_append_right _ hl')⟩
    have hroom : s.tripleExprs.size - path.length =
        s.tripleExprs.size - (l :: path).length + 1 := by
      have := hpath'.length_le
      rw [List.length_cons] at this ⊢
      omega
    rw [TripleExpr.dependencies, hroom, enterTripleExpr,
      if_neg (by simpa using (List.nodup_cons.1 hpath'.nodup).1)]
    simp only [hl]
    exact hdeps

/-- A shape has the dependencies of its value expressions. -/
theorem mem_dependenciesAfter_of_value {mk : Mark} {h : ShapeHeader} {t : TripleExpr}
    {m : TripleMark} {a : Arc} {v : ShapeExpr} (hin : s.Inside via t (.constraint m a (some v)))
    (hpath : s.IsPath (via.reverse ++ path))
    (hx : x ∈ s.dependenciesAfter (via.reverse ++ path) (valueSign h.extra p a) v) :
    x ∈ s.dependenciesAfter path p (.shape mk h (some t)) := by
  rw [dependenciesAfter, ShapeExpr.dependencies]
  exact List.mem_append_right _ (mem_dependencies_of_inside hin rfl hpath hx)

/-- The labels that are entered on the way to an expression are declared. -/
theorem Inside.declared {t y : TripleExpr} (h : s.Inside via t y) :
    ∀ l ∈ via, ∃ e, s.tripleExpr? l = some e := by
  induction h with
  | self => simp
  | eachOf _ _ ih => exact ih
  | oneOf _ _ ih => exact ih
  | repeated _ ih => exact ih
  | ref hl _ ih =>
    rw [List.forall_mem_cons]
    exact ⟨⟨_, hl⟩, ih⟩

end Shex.Schema
