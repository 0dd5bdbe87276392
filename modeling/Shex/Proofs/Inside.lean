import Shex.Schema

/-!
# What an expression contains behind references

`s.Inside via e x`: the triple expression `x` is met in `e`, outside of value expressions, if
references are followed to what the schema `s` declares. `via` has the labels that are entered on
the way, the first one first. Without references this is what `TripleExpr.constraints` and
`TripleExpr.refs` list.
-/

namespace Shex

open TripleExpr

/-- An expression is met in another one behind the references `via`. -/
inductive Schema.Inside (s : Schema) : List Label → TripleExpr → TripleExpr → Prop
  | self (e : TripleExpr) : Inside s [] e e
  | eachOf {m : TripleMark} {es : List TripleExpr} {e x : TripleExpr} {via : List Label}
      (he : e ∈ es) (hx : Inside s via e x) : Inside s via (.eachOf m es) x
  | oneOf {m : TripleMark} {es : List TripleExpr} {e x : TripleExpr} {via : List Label}
      (he : e ∈ es) (hx : Inside s via e x) : Inside s via (.oneOf m es) x
  | repeated {m : TripleMark} {e x : TripleExpr} {c : Cardinality} {via : List Label}
      (hx : Inside s via e x) : Inside s via (.repeated m e c) x
  | ref {m : TripleMark} {l : Label} {e x : TripleExpr} {via : List Label}
      (hl : s.tripleExpr? l = some e) (hx : Inside s via e x) : Inside s (l :: via) (.ref m l) x

namespace Schema

variable {s : Schema} {e x y : TripleExpr} {via via' : List Label}

/-- What is met in what is met is met, and the references entered on the way follow each other. By
induction on the first way, since each of its rules adds to the front. -/
theorem Inside.trans (h : s.Inside via e x) (h' : s.Inside via' x y) :
    s.Inside (via ++ via') e y := by
  induction h with
  | self => exact h'
  | eachOf he _ ih => exact .eachOf he (ih h')
  | oneOf he _ ih => exact .oneOf he (ih h')
  | repeated _ ih => exact .repeated (ih h')
  | ref hl _ ih => exact .ref hl (ih h')

/-! A constraint that is met in an expression is met in one of its operands. -/

section
variable {m m' : TripleMark} {a : Arc} {v : Option ShapeExpr}

/-- A group has what its parts have. Only constraints are asked for, since the group itself is met
in itself without being met in a part. -/
theorem inside_eachOf_constraint {es : List TripleExpr} :
    s.Inside via (.eachOf m es) (.constraint m' a v) ↔
      ∃ e ∈ es, s.Inside via e (.constraint m' a v) :=
  ⟨fun h => by cases h with | eachOf he hx => exact ⟨_, he, hx⟩, fun ⟨_, he, hx⟩ => .eachOf he hx⟩

/-- A choice has what its alternatives have. -/
theorem inside_oneOf_constraint {es : List TripleExpr} :
    s.Inside via (.oneOf m es) (.constraint m' a v) ↔
      ∃ e ∈ es, s.Inside via e (.constraint m' a v) :=
  ⟨fun h => by cases h with | oneOf he hx => exact ⟨_, he, hx⟩, fun ⟨_, he, hx⟩ => .oneOf he hx⟩

/-- A repetition has the constraints of what it repeats, whatever the counts are; also those of a
body that must not occur. -/
theorem inside_repeated_constraint {c : Cardinality} :
    s.Inside via (.repeated m e c) (.constraint m' a v) ↔ s.Inside via e (.constraint m' a v) :=
  ⟨fun h => by cases h with | repeated hx => exact hx, .repeated⟩

/-- A constraint has only itself, without entering a reference. Its value expression is not looked
into: the constraints in there are about other nodes. -/
theorem inside_constraint_constraint {m₀ : TripleMark} {a₀ : Arc} {v₀ : Option ShapeExpr} :
    s.Inside via (.constraint m₀ a₀ v₀) (.constraint m' a v) ↔
      via = [] ∧ m' = m₀ ∧ a = a₀ ∧ v = v₀ := by
  constructor
  · intro h
    cases h
    exact ⟨rfl, rfl, rfl, rfl⟩
  · rintro ⟨rfl, rfl, rfl, rfl⟩
    exact .self _

/-- A reference has what is declared under its label, behind one more entry. -/
theorem inside_ref_constraint {l : Label} :
    s.Inside via (.ref m l) (.constraint m' a v) ↔
      ∃ e via', s.tripleExpr? l = some e ∧ via = l :: via' ∧
        s.Inside via' e (.constraint m' a v) := by
  constructor
  · intro h
    cases h with
    | ref hl hx => exact ⟨_, _, hl, rfl, hx⟩
  · rintro ⟨e, via', hl, rfl, hx⟩
    exact .ref hl hx

/-- The empty expression has no constraint. -/
theorem inside_empty_constraint : ¬ s.Inside via (.empty m) (.constraint m' a v) := nofun

end

mutual

/-- The constraints that are listed are those that are met without entering a reference. What is
behind references is not listed, and stays a matter of the schema. -/
theorem mem_constraints_iff :
    ∀ {e : TripleExpr} {c : TripleConstraint},
      c ∈ e.constraints ↔ s.Inside [] e (.constraint c.mark c.arc c.value)
  | .eachOf m es, c => by
    rw [TripleExpr.constraints, inside_eachOf_constraint, mem_constraintsIn_iff]
  | .oneOf m es, c => by
    rw [TripleExpr.constraints, inside_oneOf_constraint, mem_constraintsIn_iff]
  | .repeated m e k, c => by
    rw [TripleExpr.constraints, inside_repeated_constraint, mem_constraints_iff]
  | .constraint m a v, c => by
    obtain ⟨m', a', v'⟩ := c
    rw [TripleExpr.constraints, inside_constraint_constraint]
    simp
  | .ref m l, c => by
    rw [TripleExpr.constraints, inside_ref_constraint]
    simp
  | .empty m, c => by
    rw [TripleExpr.constraints]
    exact iff_of_false List.not_mem_nil inside_empty_constraint

/-- The same for the parts of a group or a choice, mutual with the expressions. -/
theorem mem_constraintsIn_iff :
    ∀ {es : List TripleExpr} {c : TripleConstraint},
      c ∈ constraintsIn es ↔ ∃ e ∈ es, s.Inside [] e (.constraint c.mark c.arc c.value)
  | [], c => by simp [constraintsIn]
  | e :: es, c => by
    rw [constraintsIn, List.mem_append, mem_constraints_iff, mem_constraintsIn_iff]
    simp

end

mutual

/-- The labels that are listed are those of the references that are met first, each at least
once. -/
theorem mem_refs_iff :
    ∀ {e : TripleExpr} {l : Label}, l ∈ e.refs ↔ ∃ m, s.Inside [] e (.ref m l)
  | .eachOf m es, l => by
    rw [TripleExpr.refs, mem_refsIn_iff]
    constructor
    · rintro ⟨e, he, m, hx⟩
      exact ⟨m, .eachOf he hx⟩
    · rintro ⟨m, h⟩
      cases h with
      | eachOf he hx => exact ⟨_, he, m, hx⟩
  | .oneOf m es, l => by
    rw [TripleExpr.refs, mem_refsIn_iff]
    constructor
    · rintro ⟨e, he, m, hx⟩
      exact ⟨m, .oneOf he hx⟩
    · rintro ⟨m, h⟩
      cases h with
      | oneOf he hx => exact ⟨_, he, m, hx⟩
  | .repeated m e c, l => by
    rw [TripleExpr.refs, mem_refs_iff]
    constructor
    · exact fun ⟨m, hx⟩ => ⟨m, .repeated hx⟩
    · rintro ⟨m, h⟩
      cases h with
      | repeated hx => exact ⟨m, hx⟩
  | .constraint m a v, l => by
    rw [TripleExpr.refs]
    exact iff_of_false List.not_mem_nil nofun
  | .ref m l', l => by
    rw [TripleExpr.refs, List.mem_singleton]
    constructor
    · rintro rfl
      exact ⟨m, .self _⟩
    · rintro ⟨m, h⟩
      cases h
      rfl
  | .empty m, l => by
    rw [TripleExpr.refs]
    exact iff_of_false List.not_mem_nil nofun

/-- The same for the references in the parts of a group or a choice, mutual with the expressions. -/
theorem mem_refsIn_iff :
    ∀ {es : List TripleExpr} {l : Label}, l ∈ refsIn es ↔ ∃ e ∈ es, ∃ m, s.Inside [] e (.ref m l)
  | [], l => by simp [refsIn]
  | e :: es, l => by
    rw [refsIn, List.mem_append, mem_refs_iff, mem_refsIn_iff]
    simp

end

end Schema

end Shex
