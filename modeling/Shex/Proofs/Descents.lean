import Mathlib.Algebra.Group.Nat.Even
import Shex.Proofs.Dependencies

/-!
# Dependencies are found by descents

A descent goes from an expression into its parts, and from references into labelled triple
expressions. It leads to a label if it ends at a reference to the label or at a shape that extends
it (`Schema.LeadsTo`). Negations and value expressions on extra predicates turn the sign on the way.

The dependencies of an expression are what descents lead to that enter no labelled triple expression
from inside itself (`Schema.mem_dependencies_iff_finds`). What is collected behind a label depends
on the labels that were entered before it, so the induction carries the path to where it stands.
-/

namespace Shex

/-- Where a descent stands: at a shape expression, or at a triple expression in a shape with the
given extra predicates. -/
inductive Place where
  | shape (e : ShapeExpr)
  | triple (extra : List Iri) (t : TripleExpr)

/-- How a descent goes on. -/
inductive Passage where
  /-- Into what is negated. -/
  | negation
  /-- Into the value expression of a triple constraint. `extra` is whether the shape admits other
  triples with the predicate. -/
  | value (extra : Bool)
  /-- Into the triple expression declared under a label. -/
  | entry (l : Label)
  /-- Into any other part. -/
  | part
deriving DecidableEq

namespace Passage

/-- Whether the sign is turned. -/
def turns : Passage → Bool
  | negation => true
  | value extra => extra
  | entry _ | part => false

/-- The label that is entered. -/
def label? : Passage → Option Label
  | entry l => some l
  | negation | value _ | part => none

end Passage

/-- How often the sign is turned on the way: the number of negations and of value expressions on
extra predicates. -/
def turnsOn (ps : List Passage) : Nat := ps.countP Passage.turns

/-- The labelled triple expressions that are entered on the way. -/
def enteredOn (ps : List Passage) : List Label := ps.filterMap Passage.label?

/-- The sign after a passage. -/
def Passage.sign (step : Passage) (p : Polarity) : Polarity := if step.turns then p.flip else p

/-- The sign at the end of the way that begins with a sign. -/
def signAfter (p : Polarity) (ps : List Passage) : Polarity :=
  ps.foldl (fun p step => step.sign p) p

/-- No passage, no turn. -/
@[simp] theorem turnsOn_nil : turnsOn [] = 0 := rfl

/-- A passage adds its turn to those of the rest. -/
@[simp] theorem turnsOn_cons (step : Passage) (ps : List Passage) :
    turnsOn (step :: ps) = turnsOn ps + if step.turns then 1 else 0 := List.countP_cons

/-- The turns on two ways in a row are added. -/
@[simp] theorem turnsOn_append (ps qs : List Passage) :
    turnsOn (ps ++ qs) = turnsOn ps + turnsOn qs := List.countP_append

/-- No passage, no entry. -/
@[simp] theorem enteredOn_nil : enteredOn [] = [] := rfl

/-- The label that is entered first is the first one in the list. -/
@[simp] theorem enteredOn_cons (step : Passage) (ps : List Passage) :
    enteredOn (step :: ps) = step.label?.toList ++ enteredOn ps := by
  cases step <;> rfl

/-- The labels entered on two ways in a row. -/
@[simp] theorem enteredOn_append (ps qs : List Passage) :
    enteredOn (ps ++ qs) = enteredOn ps ++ enteredOn qs := List.filterMap_append

/-- The sign is kept if it is turned an even number of times. The induction goes along the way, for
both signs at once. -/
theorem signAfter_eq_iff {p : Polarity} {ps : List Passage} :
    signAfter p ps = p ↔ Even (turnsOn ps) := by
  induction ps generalizing p with
  | nil => simp [signAfter]
  | cons step ps ih =>
    have hcons : signAfter p (step :: ps) = signAfter (step.sign p) ps := rfl
    rw [hcons, turnsOn_cons, Passage.sign]
    split
    · rw [Nat.even_add_one, ← ih (p := p.flip)]
      generalize signAfter p.flip ps = q
      cases p <;> cases q <;> decide
    · exact ih

/-- The sign at the end of a way that begins with the positive one. -/
theorem signAfter_positive_iff {p : Polarity} {ps : List Passage} :
    signAfter .positive ps = p ↔ (p = .positive ↔ Even (turnsOn ps)) := by
  rw [← signAfter_eq_iff (p := .positive)]
  generalize signAfter .positive ps = q
  cases p <;> cases q <;> decide

/-- A way that begins with a passage enters nothing twice and nothing of `path` if the rest of it
enters nothing twice and nothing that was entered before. -/
theorem enteredOn_cons_fresh {step : Passage} {ps : List Passage} {path : List Label} :
    ((enteredOn (step :: ps)).Nodup ∧ ∀ l ∈ enteredOn (step :: ps), l ∉ path) ↔
      (∀ l ∈ step.label?, l ∉ path) ∧ (enteredOn ps).Nodup ∧
        ∀ l ∈ enteredOn ps, l ∉ step.label?.toList ++ path := by
  cases step with
  | entry l =>
    simp only [enteredOn_cons, Passage.label?, Option.toList_some, List.singleton_append,
      List.nodup_cons, Option.mem_def, Option.some.injEq, forall_eq', List.mem_cons, not_or]
    grind
  | _ => simp [Passage.label?]

namespace Schema

/-- One step of a descent. -/
inductive Descends (s : Schema) : Place → Passage → Place → Prop
  | and {m : Mark} {es : List ShapeExpr} {e : ShapeExpr} (he : e ∈ es) :
      Descends s (.shape (.and m es)) .part (.shape e)
  | or {m : Mark} {es : List ShapeExpr} {e : ShapeExpr} (he : e ∈ es) :
      Descends s (.shape (.or m es)) .part (.shape e)
  | not {m : Mark} {e : ShapeExpr} : Descends s (.shape (.not m e)) .negation (.shape e)
  | shape {m : Mark} {h : ShapeHeader} {t : TripleExpr} :
      Descends s (.shape (.shape m h (some t))) .part (.triple h.extra t)
  | eachOf {extra : List Iri} {m : TripleMark} {ts : List TripleExpr} {t : TripleExpr}
      (ht : t ∈ ts) : Descends s (.triple extra (.eachOf m ts)) .part (.triple extra t)
  | oneOf {extra : List Iri} {m : TripleMark} {ts : List TripleExpr} {t : TripleExpr}
      (ht : t ∈ ts) : Descends s (.triple extra (.oneOf m ts)) .part (.triple extra t)
  | repeated {extra : List Iri} {m : TripleMark} {t : TripleExpr} {c : Cardinality} :
      Descends s (.triple extra (.repeated m t c)) .part (.triple extra t)
  | value {extra : List Iri} {m : TripleMark} {a : Arc} {v : ShapeExpr} :
      Descends s (.triple extra (.constraint m a (some v)))
        (.value (extra.contains a.predicate)) (.shape v)
  | ref {extra : List Iri} {m : TripleMark} {l : Label} {t : TripleExpr}
      (hl : s.tripleExpr? l = some t) :
      Descends s (.triple extra (.ref m l)) (.entry l) (.triple extra t)

/-- The passages of a descent from one place to another. -/
inductive Descent (s : Schema) : Place → List Passage → Place → Prop
  | refl (x : Place) : Descent s x [] x
  | head {x y z : Place} {p : Passage} {ps : List Passage} (h : s.Descends x p y)
      (hs : Descent s y ps z) : Descent s x (p :: ps) z

end Schema

/-- A label is referred to, or extended, at a place. -/
inductive Place.Names : Place → Label → Prop
  | ref {m : Mark} {l : Label} : Names (.shape (.ref m l)) l
  | parent {m : Mark} {h : ShapeHeader} {t : Option TripleExpr} {l : Label} (hl : l ∈ h.parents) :
      Names (.shape (.shape m h t)) l

namespace Schema

variable {s : Schema} {x y z : Place} {l : Label} {ps qs : List Passage}

/-- A descent leads to a label. -/
def LeadsTo (s : Schema) (x : Place) (ps : List Passage) (l : Label) : Prop :=
  ∃ y, s.Descent x ps y ∧ y.Names l

/-- A descent is continued by another one, by induction on the first. -/
theorem Descent.trans (h : s.Descent x ps y) (h' : s.Descent y qs z) :
    s.Descent x (ps ++ qs) z := by
  induction h with
  | refl => exact h'
  | head hstep _ ih => exact .head hstep (ih h')

/-! ### What is found -/

/-- What descents lead to that begin with the sign `p` and enter no labelled triple expression twice
and none of `path`, with the sign at the end. -/
def Finds (s : Schema) (path : List Label) (p : Polarity) (x : Place) (d : Label × Polarity) :
    Prop :=
  ∃ ps, s.LeadsTo x ps d.1 ∧ ((enteredOn ps).Nodup ∧ ∀ l ∈ enteredOn ps, l ∉ path) ∧
    signAfter p ps = d.2

section
variable {path : List Label} {p : Polarity} {d : Label × Polarity}

/-- Something is found where it is named, and where a first step leads. From here on the ways
themselves do not appear: what is found is treated by this equation, which is the one that the
collection follows. -/
theorem finds_iff :
    s.Finds path p x d ↔ x.Names d.1 ∧ p = d.2 ∨ ∃ step y, s.Descends x step y ∧
      (∀ l ∈ step.label?, l ∉ path) ∧ s.Finds (step.label?.toList ++ path) (step.sign p) y d := by
  constructor
  · rintro ⟨ps, ⟨z, hdescent, hnames⟩, hfresh, hsign⟩
    cases hdescent with
    | refl => exact .inl ⟨hnames, hsign⟩
    | @head _ y _ step ps hstep hrest =>
      obtain ⟨hopen, hfresh⟩ := enteredOn_cons_fresh.1 hfresh
      exact .inr ⟨step, y, hstep, hopen, ps, ⟨z, hrest, hnames⟩, hfresh, hsign⟩
  · rintro (⟨hnames, hsign⟩ | ⟨step, y, hstep, hopen, ps, ⟨z, hrest, hnames⟩, hfresh, hsign⟩)
    · exact ⟨[], ⟨x, .refl x, hnames⟩, by simp, hsign⟩
    · exact ⟨step :: ps, ⟨z, .head hstep hrest, hnames⟩, enteredOn_cons_fresh.2 ⟨hopen, hfresh⟩,
        hsign⟩

/-- Nothing is found where nothing is named and no step leads on. -/
theorem not_finds (hnames : ¬ x.Names d.1) (hsteps : ∀ step y, ¬ s.Descends x step y) :
    ¬ s.Finds path p x d := by
  rw [finds_iff]
  rintro (⟨h, -⟩ | ⟨step, y, hstep, -⟩)
  · exact hnames h
  · exact hsteps step y hstep

/-- The conjuncts of a conjunction are where it leads on; it names nothing itself. So are the lemmas
that follow, one for each kind of expression, and with them `finds_iff` is opened nowhere else. -/
theorem finds_and {m : Mark} {es : List ShapeExpr} :
    s.Finds path p (.shape (.and m es)) d ↔ ∃ e ∈ es, s.Finds path p (.shape e) d := by
  rw [finds_iff]
  constructor
  · rintro (⟨⟨⟩, -⟩ | ⟨_, _, hstep, -, h⟩)
    cases hstep with
    | and he => exact ⟨_, he, h⟩
  · rintro ⟨e, he, h⟩
    exact .inr ⟨_, _, .and he, nofun, h⟩

/-- The disjuncts of a disjunction are where it leads on. -/
theorem finds_or {m : Mark} {es : List ShapeExpr} :
    s.Finds path p (.shape (.or m es)) d ↔ ∃ e ∈ es, s.Finds path p (.shape e) d := by
  rw [finds_iff]
  constructor
  · rintro (⟨⟨⟩, -⟩ | ⟨_, _, hstep, -, h⟩)
    cases hstep with
    | or he => exact ⟨_, he, h⟩
  · rintro ⟨e, he, h⟩
    exact .inr ⟨_, _, .or he, nofun, h⟩

/-- A negation leads into what is negated, with the other sign. -/
theorem finds_not {m : Mark} {e : ShapeExpr} :
    s.Finds path p (.shape (.not m e)) d ↔ s.Finds path p.flip (.shape e) d := by
  rw [finds_iff]
  constructor
  · rintro (⟨⟨⟩, -⟩ | ⟨_, _, ⟨⟩, -, h⟩)
    exact h
  · exact fun h => .inr ⟨_, _, .not, nofun, h⟩

/-- A reference finds its label with the sign at which it stands, and leads nowhere. -/
theorem finds_ref {m : Mark} {l : Label} :
    s.Finds path p (.shape (.ref m l)) d ↔ d = (l, p) := by
  rw [finds_iff]
  constructor
  · rintro (⟨⟨⟩, hsign⟩ | ⟨_, _, ⟨⟩, -⟩)
    exact Prod.ext rfl hsign.symm
  · rintro rfl
    exact .inl ⟨.ref, rfl⟩

/-- A shape finds the labels it extends, and what is found in its triple expression under its extra
predicates. -/
theorem finds_shape {m : Mark} {h : ShapeHeader} {t : Option TripleExpr} :
    s.Finds path p (.shape (.shape m h t)) d ↔ d ∈ h.parents.map (·, p) ∨
      ∃ t', t = some t' ∧ s.Finds path p (.triple h.extra t') d := by
  rw [finds_iff]
  constructor
  · rintro (⟨hnames, hsign⟩ | ⟨_, _, hstep, -, h⟩)
    · cases hnames with
      | parent hl => exact .inl (List.mem_map.2 ⟨_, hl, Prod.ext rfl hsign⟩)
    · cases hstep
      exact .inr ⟨_, rfl, h⟩
  · rintro (hd | ⟨t', rfl, h⟩)
    · obtain ⟨l, hl, rfl⟩ := List.mem_map.1 hd
      exact .inl ⟨.parent hl, rfl⟩
    · exact .inr ⟨_, _, .shape, nofun, h⟩

/-- No triple expression names a shape label: whatever is found in it is found behind a first
step. -/
theorem finds_triple_iff {extra : List Iri} {t : TripleExpr} :
    s.Finds path p (.triple extra t) d ↔ ∃ step y, s.Descends (.triple extra t) step y ∧
      (∀ l ∈ step.label?, l ∉ path) ∧ s.Finds (step.label?.toList ++ path) (step.sign p) y d := by
  rw [finds_iff]
  exact or_iff_right fun h => nomatch h.1

variable {extra : List Iri} {m : TripleMark}

/-- The parts of a group are where it leads on. -/
theorem finds_eachOf {ts : List TripleExpr} :
    s.Finds path p (.triple extra (.eachOf m ts)) d ↔
      ∃ t ∈ ts, s.Finds path p (.triple extra t) d := by
  rw [finds_triple_iff]
  constructor
  · rintro ⟨_, _, hstep, -, h⟩
    cases hstep with
    | eachOf ht => exact ⟨_, ht, h⟩
  · rintro ⟨t, ht, h⟩
    exact ⟨_, _, .eachOf ht, nofun, h⟩

/-- The alternatives of a choice are where it leads on. -/
theorem finds_oneOf {ts : List TripleExpr} :
    s.Finds path p (.triple extra (.oneOf m ts)) d ↔
      ∃ t ∈ ts, s.Finds path p (.triple extra t) d := by
  rw [finds_triple_iff]
  constructor
  · rintro ⟨_, _, hstep, -, h⟩
    cases hstep with
    | oneOf ht => exact ⟨_, ht, h⟩
  · rintro ⟨t, ht, h⟩
    exact ⟨_, _, .oneOf ht, nofun, h⟩

/-- A repetition leads into what it repeats, whatever the counts are. -/
theorem finds_repeated {t : TripleExpr} {c : Cardinality} :
    s.Finds path p (.triple extra (.repeated m t c)) d ↔ s.Finds path p (.triple extra t) d := by
  rw [finds_triple_iff]
  constructor
  · rintro ⟨_, _, ⟨⟩, -, h⟩
    exact h
  · exact fun h => ⟨_, _, .repeated, nofun, h⟩

/-- A constraint leads into its value expression, with the sign turned if the predicate is an extra
one. -/
theorem finds_value {a : Arc} {v : ShapeExpr} :
    s.Finds path p (.triple extra (.constraint m a (some v))) d ↔
      s.Finds path (valueSign extra p a) (.shape v) d := by
  rw [finds_triple_iff]
  constructor
  · rintro ⟨_, _, ⟨⟩, -, h⟩
    exact h
  · exact fun h => ⟨_, _, .value, nofun, h⟩

/-- A reference leads into the declared expression unless it was entered before. This is the only
step that looks at the path, and the only one that makes it longer. -/
theorem finds_tripleRef {l : Label} :
    s.Finds path p (.triple extra (.ref m l)) d ↔
      ∃ t, s.tripleExpr? l = some t ∧ l ∉ path ∧ s.Finds (l :: path) p (.triple extra t) d := by
  rw [finds_triple_iff]
  constructor
  · rintro ⟨_, _, hstep, hopen, h⟩
    cases hstep with
    | ref hl => exact ⟨_, hl, hopen l rfl, h⟩
  · rintro ⟨t, hl, hopen, h⟩
    exact ⟨_, _, .ref hl, by simpa [Passage.label?] using hopen, h⟩

end

/-! ### What is collected is what is found -/

section
variable {path : List Label} {enter : List Iri → Polarity → Label → Dependencies}
  {d : Label × Polarity}

/-- A labelled triple expression that is entered after those of `path` has the dependency if the
dependency is found there. -/
def EntersAfter (s : Schema) (path : List Label)
    (enter : List Iri → Polarity → Label → Dependencies) (d : Label × Polarity) : Prop :=
  ∀ extra p l, d ∈ enter extra p l ↔
    ∃ t, s.tripleExpr? l = some t ∧ l ∉ path ∧ s.Finds (l :: path) p (.triple extra t) d

mutual

/-- If what is entered has the dependencies that are found there, so has every expression. The
recursion is that of the collection, and it leaves labelled triple expressions to the hypothesis. -/
theorem mem_dependencies_iff_of_enter (henter : s.EntersAfter path enter d) :
    ∀ {e : ShapeExpr} {p : Polarity},
      d ∈ e.dependencies enter p ↔ s.Finds path p (.shape e) d
  | .and m es, p => by
    rw [ShapeExpr.dependencies, finds_and, mem_dependenciesIn_iff_of_enter henter]
  | .or m es, p => by
    rw [ShapeExpr.dependencies, finds_or, mem_dependenciesIn_iff_of_enter henter]
  | .not m e, p => by
    rw [ShapeExpr.dependencies, finds_not, mem_dependencies_iff_of_enter henter]
  | .ref m l, p => by
    rw [ShapeExpr.dependencies, finds_ref, List.mem_singleton]
  | .shape m h none, p => by
    rw [ShapeExpr.dependencies, finds_shape]
    simp
  | .shape m h (some t), p => by
    rw [ShapeExpr.dependencies, finds_shape, List.mem_append,
      mem_tripleDependencies_iff_of_enter henter]
    simp
  | .nodeConstraint m c, p => by
    rw [ShapeExpr.dependencies]
    exact iff_of_false List.not_mem_nil (not_finds nofun nofun)
  | .external m, p => by
    rw [ShapeExpr.dependencies]
    exact iff_of_false List.not_mem_nil (not_finds nofun nofun)

/-- The same for the operands of a conjunction or a disjunction. -/
theorem mem_dependenciesIn_iff_of_enter (henter : s.EntersAfter path enter d) :
    ∀ {es : List ShapeExpr} {p : Polarity},
      d ∈ ShapeExpr.dependenciesIn enter p es ↔ ∃ e ∈ es, s.Finds path p (.shape e) d
  | [], p => by simp [ShapeExpr.dependenciesIn]
  | e :: es, p => by
    rw [ShapeExpr.dependenciesIn, List.mem_append, mem_dependencies_iff_of_enter henter,
      mem_dependenciesIn_iff_of_enter henter]
    simp

/-- The same for triple expressions, under the extra predicates of the shape around them. -/
theorem mem_tripleDependencies_iff_of_enter (henter : s.EntersAfter path enter d) :
    ∀ {t : TripleExpr} {extra : List Iri} {p : Polarity},
      d ∈ t.dependencies enter extra p ↔ s.Finds path p (.triple extra t) d
  | .eachOf m ts, extra, p => by
    rw [TripleExpr.dependencies, finds_eachOf, mem_tripleDependenciesIn_iff_of_enter henter]
  | .oneOf m ts, extra, p => by
    rw [TripleExpr.dependencies, finds_oneOf, mem_tripleDependenciesIn_iff_of_enter henter]
  | .repeated m t c, extra, p => by
    rw [TripleExpr.dependencies, finds_repeated, mem_tripleDependencies_iff_of_enter henter]
  | .constraint m a none, extra, p => by
    rw [TripleExpr.dependencies]
    exact iff_of_false List.not_mem_nil (not_finds nofun nofun)
  | .constraint m a (some v), extra, p => by
    rw [TripleExpr.dependencies, finds_value, mem_dependencies_iff_of_enter henter, valueSign]
  | .ref m l, extra, p => by
    rw [TripleExpr.dependencies, finds_tripleRef, henter]
  | .empty m, extra, p => by
    rw [TripleExpr.dependencies]
    exact iff_of_false List.not_mem_nil (not_finds nofun nofun)

/-- The same for the parts of a group or a choice. -/
theorem mem_tripleDependenciesIn_iff_of_enter (henter : s.EntersAfter path enter d) :
    ∀ {ts : List TripleExpr} {extra : List Iri} {p : Polarity},
      d ∈ TripleExpr.dependenciesIn enter extra p ts ↔ ∃ t ∈ ts, s.Finds path p (.triple extra t) d
  | [], extra, p => by simp [TripleExpr.dependenciesIn]
  | t :: ts, extra, p => by
    rw [TripleExpr.dependenciesIn, List.mem_append, mem_tripleDependencies_iff_of_enter henter,
      mem_tripleDependenciesIn_iff_of_enter henter]
    simp

end

/-- Labelled triple expressions are entered as descents enter them. The bound on the number of
entered labels is never met, since only declared ones are entered, and none twice. -/
theorem entersAfter_enterTripleExpr {depth : Nat} (hpath : s.IsPath path)
    (hdepth : depth + path.length = s.tripleExprs.size) :
    s.EntersAfter path (s.enterTripleExpr depth path) d := by
  induction depth generalizing path with
  | zero =>
    intro extra p l
    rw [enterTripleExpr]
    refine iff_of_false List.not_mem_nil ?_
    rintro ⟨t, ht, hl, -⟩
    have := (hpath.cons ht hl).length_le
    rw [List.length_cons] at this
    omega
  | succ depth ih =>
    intro extra p l
    rw [enterTripleExpr]
    by_cases hl : l ∈ path
    · rw [if_pos (List.contains_iff_mem.2 hl)]
      refine iff_of_false List.not_mem_nil ?_
      rintro ⟨t, -, hnew, -⟩
      exact hnew hl
    · rw [if_neg (by simpa using hl)]
      cases ht : s.tripleExpr? l with
      | none => simp
      | some t =>
        have hdepth' : depth + (l :: path).length = s.tripleExprs.size := by
          rw [List.length_cons]
          omega
        dsimp only
        rw [mem_tripleDependencies_iff_of_enter (ih (hpath.cons ht hl) hdepth')]
        simp [hl]

/-- The dependencies of an expression are what is found from it. -/
theorem mem_dependencies_iff_finds {e : ShapeExpr} :
    d ∈ s.dependencies e ↔ s.Finds [] .positive (.shape e) d :=
  mem_dependencies_iff_of_enter (entersAfter_enterTripleExpr isPath_nil rfl)

end

end Schema

end Shex
