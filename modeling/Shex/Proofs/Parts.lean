import Mathlib.Data.Fintype.Card
import Mathlib.Data.Set.Finite.List
import Mathlib.Tactic.Tauto
import Shex.Proofs.Dependencies
import Shex.Proofs.Occurrence

/-!
# Parts of shape expressions

The parts of an expression are its operands, and the value expressions of a shape, behind references
to labelled triple expressions too (`Schema.HasPart`). If no labelled triple expression reaches
itself through value expressions, going from expressions to their parts comes to an end
(`Schema.wellFounded_hasPart`). The labels that an expression refers to in its parts, with the sign
given by negations alone (`Schema.Uses`), are among its dependencies, and have the sign given there
unless there are extra predicates (`Schema.Uses.mem_dependencies`).
-/

namespace Shex

open Relation

/-- A relation without cycles in which finitely many elements are related to something is
well-founded, seen from the ends. -/
theorem wellFounded_of_acyclic {α : Type} {r : α → α → Prop} {U : List α}
    (hU : ∀ a b, r a b → a ∈ U) (hr : ∀ a, ¬ TransGen r a a) : WellFounded (flip r) := by
  let below (a b : {a // a ∈ U}) : Prop := TransGen r b.1 a.1
  have htrans : IsTrans _ below := ⟨fun a b c hab hbc => TransGen.trans hbc hab⟩
  have hirrefl : Std.Irrefl below := ⟨fun a ha => hr a.1 ha⟩
  have hfinite : Finite {a // a ∈ U} := U.finite_toSet
  have hbelow := Finite.wellFounded_of_trans_of_irrefl below
  have hacc : ∀ a : {a // a ∈ U}, Acc (flip r) a.1 := by
    intro a
    induction a using hbelow.induction with
    | h a ih =>
      refine Acc.intro _ fun b hb => ?_
      by_cases hbU : b ∈ U
      · exact ih ⟨b, hbU⟩ (.single hb)
      · exact Acc.intro _ fun c hc => absurd (hU b c hc) hbU
  exact ⟨fun a => Acc.intro _ fun b hb => by
    by_cases hbU : b ∈ U
    · exact hacc ⟨b, hbU⟩
    · exact Acc.intro _ fun c hc => absurd (hU b c hc) hbU⟩

/-- The labelled triple expressions that an expression refers to, in value expressions too, without
a look behind references. -/
def ShapeExpr.mentions (e : ShapeExpr) : List Label :=
  e.nested.flatMap fun x => (x.shape?.bind Shape.expression).elim [] TripleExpr.refs

/-- The labelled triple expressions that a triple expression refers to, in value expressions too,
without a look behind references. -/
def TripleExpr.mentions (t : TripleExpr) : List Label :=
  t.refs ++ t.nested.flatMap ShapeExpr.mentions

/-- What a nested expression mentions, the expression mentions. The lemmas on the single kinds of
expressions follow from it. -/
theorem ShapeExpr.mem_mentions_of_nested {e x : ShapeExpr} {l : Label} (hx : x ∈ e.nested)
    (hl : l ∈ x.mentions) : l ∈ e.mentions := by
  obtain ⟨y, hy, hl⟩ := List.mem_flatMap.1 hl
  exact List.mem_flatMap.2 ⟨y, ShapeExpr.nested_trans hx hy, hl⟩

/-- A conjunction mentions what its conjuncts mention. -/
theorem ShapeExpr.mem_mentions_and {m : Mark} {es : List ShapeExpr} {x : ShapeExpr} {l : Label}
    (hx : x ∈ es) (hl : l ∈ x.mentions) : l ∈ (ShapeExpr.and m es).mentions := by
  refine ShapeExpr.mem_mentions_of_nested ?_ hl
  rw [ShapeExpr.nested, ShapeExpr.nestedIn_eq_flatMap]
  exact List.mem_cons_of_mem _ (List.mem_flatMap.2 ⟨x, hx, x.self_mem_nested⟩)

/-- A disjunction mentions what its disjuncts mention. -/
theorem ShapeExpr.mem_mentions_or {m : Mark} {es : List ShapeExpr} {x : ShapeExpr} {l : Label}
    (hx : x ∈ es) (hl : l ∈ x.mentions) : l ∈ (ShapeExpr.or m es).mentions := by
  refine ShapeExpr.mem_mentions_of_nested ?_ hl
  rw [ShapeExpr.nested, ShapeExpr.nestedIn_eq_flatMap]
  exact List.mem_cons_of_mem _ (List.mem_flatMap.2 ⟨x, hx, x.self_mem_nested⟩)

/-- A negation mentions what is mentioned in what it negates. -/
theorem ShapeExpr.mem_mentions_not {m : Mark} {x : ShapeExpr} {l : Label} (hl : l ∈ x.mentions) :
    l ∈ (ShapeExpr.not m x).mentions := by
  refine ShapeExpr.mem_mentions_of_nested ?_ hl
  rw [ShapeExpr.nested]
  exact List.mem_cons_of_mem _ x.self_mem_nested

/-- A shape mentions what its triple expression mentions, both itself and in value expressions. -/
theorem ShapeExpr.mem_mentions_of_triple {m : Mark} {h : ShapeHeader} {t : TripleExpr} {l : Label}
    (hl : l ∈ t.mentions) : l ∈ (ShapeExpr.shape m h (some t)).mentions := by
  rcases List.mem_append.1 hl with hl | hl
  · exact List.mem_flatMap.2 ⟨_, ShapeExpr.self_mem_nested _, hl⟩
  · obtain ⟨x, hx, hl⟩ := List.mem_flatMap.1 hl
    refine ShapeExpr.mem_mentions_of_nested ?_ hl
    rw [ShapeExpr.nested]
    exact List.mem_cons_of_mem _ hx

namespace TripleExpr

/-- What the parts of a group or a choice mention. -/
theorem mem_mentionsIn {es : List TripleExpr} {l : Label} :
    l ∈ refsIn es ++ (nestedIn es).flatMap ShapeExpr.mentions ↔ ∃ e ∈ es, l ∈ e.mentions := by
  induction es with
  | nil => simp [refsIn, nestedIn]
  | cons e es ih =>
    simp only [List.mem_cons, exists_eq_or_imp, ← ih, refsIn, nestedIn, List.mem_append,
      List.flatMap_append]
    rw [mentions, List.mem_append]
    tauto

/-- A group mentions what its parts mention. -/
theorem mem_mentions_eachOf {m : TripleMark} {es : List TripleExpr} {l : Label} :
    l ∈ (eachOf m es).mentions ↔ ∃ e ∈ es, l ∈ e.mentions := by
  rw [mentions, refs, nested, mem_mentionsIn]

/-- A choice mentions what its alternatives mention. -/
theorem mem_mentions_oneOf {m : TripleMark} {es : List TripleExpr} {l : Label} :
    l ∈ (oneOf m es).mentions ↔ ∃ e ∈ es, l ∈ e.mentions := by
  rw [mentions, refs, nested, mem_mentionsIn]

/-- A repetition mentions what it repeats mentions. -/
theorem mentions_repeated {m : TripleMark} {e : TripleExpr} {c : Cardinality} :
    (repeated m e c).mentions = e.mentions := by
  rw [mentions, refs, nested, mentions]

/-- A constraint mentions what its value expression mentions. -/
theorem mem_mentions_constraint {m : TripleMark} {a : Arc} {v : ShapeExpr} {l : Label}
    (hl : l ∈ v.mentions) : l ∈ (constraint m a (some v)).mentions := by
  rw [mentions, nested]
  exact List.mem_append_right _ (List.mem_flatMap.2 ⟨v, v.self_mem_nested, hl⟩)

/-- A reference mentions its label. -/
theorem mem_mentions_ref {m : TripleMark} {l : Label} : l ∈ (ref m l).mentions := by
  rw [mentions, refs]
  exact List.mem_append_left _ (List.mem_singleton_self l)

end TripleExpr

namespace Schema

/-- The second expression is an operand of the first, or a value expression that is met in it. -/
inductive HasPart (s : Schema) : ShapeExpr → ShapeExpr → Prop
  | and {m : Mark} {es : List ShapeExpr} {x : ShapeExpr} (hx : x ∈ es) : HasPart s (.and m es) x
  | or {m : Mark} {es : List ShapeExpr} {x : ShapeExpr} (hx : x ∈ es) : HasPart s (.or m es) x
  | not {m : Mark} {x : ShapeExpr} : HasPart s (.not m x) x
  | value {m : Mark} {h : ShapeHeader} {t : TripleExpr} {via : List Label} {m' : TripleMark}
      {a : Arc} {v : ShapeExpr} (hin : s.Inside via t (.constraint m' a (some v))) :
      HasPart s (.shape m h (some t)) v

/-- The second expression is the first, a part of it, a part of a part, and so on. -/
abbrev Within (s : Schema) : ShapeExpr → ShapeExpr → Prop := ReflTransGen s.HasPart

/-- A labelled triple expression refers to another, perhaps in a value expression. -/
def Mentions (s : Schema) (l l' : Label) : Prop :=
  ∃ t, s.tripleExpr? l = some t ∧ l' ∈ t.mentions

/-- No labelled triple expression reaches itself, through value expressions or otherwise, without
going through a shape reference. -/
def NeverReenters (s : Schema) : Prop := ∀ l, ¬ TransGen s.Mentions l l

variable {s : Schema}

/-- With an expression a schema has its parts. -/
theorem Has.of_hasPart {e x : ShapeExpr} (he : s.Has e) (hx : s.HasPart e x) : s.Has x := by
  cases hx with
  | and hx => exact he.of_and hx
  | or hx => exact he.of_or hx
  | not => exact he.of_not
  | value hin => exact he.of_shape hin

/-- With an expression a schema has the parts of its parts, and so on. -/
theorem Has.of_within {e x : ShapeExpr} (he : s.Has e) (hx : s.Within e x) : s.Has x := by
  induction hx with
  | refl => exact he
  | tail _ hpart ih => exact ih.of_hasPart hpart

/-! ### Going to parts comes to an end -/

/-- The value expressions that are met behind a label can be taken apart. -/
def EndsBehind (s : Schema) (l : Label) : Prop :=
  ∀ t, s.tripleExpr? l = some t → ∀ via m a v, s.Inside via t (.constraint m a (some v)) →
    Acc (flip s.HasPart) v

mutual

/-- An expression can be taken apart if what is behind the labels that it mentions can. The
recursion is on the expression, and stops at references. -/
theorem acc_of_endsBehind :
    ∀ {e : ShapeExpr}, (∀ l ∈ e.mentions, s.EndsBehind l) → Acc (flip s.HasPart) e
  | .and m es, h => by
    refine Acc.intro _ fun x hx => ?_
    cases hx with
    | and hx =>
      exact acc_of_endsBehind_mem (fun y hy l hl => h l (ShapeExpr.mem_mentions_and hy hl)) x hx
  | .or m es, h => by
    refine Acc.intro _ fun x hx => ?_
    cases hx with
    | or hx =>
      exact acc_of_endsBehind_mem (fun y hy l hl => h l (ShapeExpr.mem_mentions_or hy hl)) x hx
  | .not m y, h => by
    refine Acc.intro _ fun x hx => ?_
    cases hx with
    | not => exact acc_of_endsBehind fun l hl => h l (ShapeExpr.mem_mentions_not hl)
  | .shape m hd (some t), h => by
    refine Acc.intro _ fun x hx => ?_
    cases hx with
    | value hin =>
      exact acc_of_endsBehind_value (fun l hl => h l (ShapeExpr.mem_mentions_of_triple hl)) hin
  | .shape m hd none, h => Acc.intro _ nofun
  | .ref m l, h => Acc.intro _ nofun
  | .nodeConstraint m c, h => Acc.intro _ nofun
  | .external m, h => Acc.intro _ nofun

/-- The same for operands. -/
theorem acc_of_endsBehind_mem :
    ∀ {es : List ShapeExpr}, (∀ e ∈ es, ∀ l ∈ e.mentions, s.EndsBehind l) →
      ∀ e ∈ es, Acc (flip s.HasPart) e
  | [], _ => by simp
  | e :: es, h => by
    rw [List.forall_mem_cons] at h ⊢
    exact ⟨acc_of_endsBehind h.1, acc_of_endsBehind_mem h.2⟩

/-- The same for the value expressions of a triple expression. -/
theorem acc_of_endsBehind_value :
    ∀ {t : TripleExpr}, (∀ l ∈ t.mentions, s.EndsBehind l) → ∀ {via m a v},
      s.Inside via t (.constraint m a (some v)) → Acc (flip s.HasPart) v
  | .eachOf m' es, h, via, m, a, v, hin => by
    obtain ⟨e, he, hin⟩ := inside_eachOf_constraint.1 hin
    refine acc_of_endsBehind_value_mem (fun y hy l hl => h l ?_) e he hin
    exact TripleExpr.mem_mentions_eachOf.2 ⟨y, hy, hl⟩
  | .oneOf m' es, h, via, m, a, v, hin => by
    obtain ⟨e, he, hin⟩ := inside_oneOf_constraint.1 hin
    refine acc_of_endsBehind_value_mem (fun y hy l hl => h l ?_) e he hin
    exact TripleExpr.mem_mentions_oneOf.2 ⟨y, hy, hl⟩
  | .repeated m' e c, h, via, m, a, v, hin =>
    acc_of_endsBehind_value (fun l hl => h l (by rwa [TripleExpr.mentions_repeated]))
      (inside_repeated_constraint.1 hin)
  | .constraint m' a' (some v'), h, via, m, a, v, hin => by
    obtain ⟨-, -, -, hv⟩ := inside_constraint_constraint.1 hin
    cases hv
    exact acc_of_endsBehind fun l hl => h l (TripleExpr.mem_mentions_constraint hl)
  | .constraint m' a' none, h, via, m, a, v, hin => by
    obtain ⟨-, -, -, hv⟩ := inside_constraint_constraint.1 hin
    cases hv
  | .ref m' l, h, via, m, a, v, hin => by
    obtain ⟨e, via', hl, -, hin⟩ := inside_ref_constraint.1 hin
    exact h l TripleExpr.mem_mentions_ref e hl _ _ _ _ hin
  | .empty _, _, _, _, _, _, hin => absurd hin inside_empty_constraint

/-- The same for the parts of a triple expression. -/
theorem acc_of_endsBehind_value_mem :
    ∀ {ts : List TripleExpr}, (∀ t ∈ ts, ∀ l ∈ t.mentions, s.EndsBehind l) → ∀ t ∈ ts,
      ∀ {via m a v}, s.Inside via t (.constraint m a (some v)) → Acc (flip s.HasPart) v
  | [], _ => by simp
  | t :: ts, h => by
    rw [List.forall_mem_cons] at h ⊢
    exact ⟨acc_of_endsBehind_value h.1, acc_of_endsBehind_value_mem h.2⟩

end

/-- No expression has parts in parts without end. -/
theorem wellFounded_hasPart (hre : s.NeverReenters) : WellFounded (flip s.HasPart) := by
  have hU : ∀ l l', s.Mentions l l' → l ∈ s.tripleExprs.keys := by
    rintro l l' ⟨t, ht, -⟩
    exact List.mem_map.2 ⟨(l, t), (Table.get?_eq_some_iff _).1 ht, rfl⟩
  have hends : ∀ l, s.EndsBehind l := by
    intro l
    induction l using (wellFounded_of_acyclic hU hre).induction with
    | h l ih =>
      exact fun t ht via m a v hin =>
        acc_of_endsBehind_value (fun l' hl' => ih l' ⟨t, ht, hl'⟩) hin
  exact ⟨fun e => acc_of_endsBehind fun l _ => hends l⟩

/-! ### References in parts -/

/-- The sign that a dependency gets in a context of another sign. -/
def turn : Polarity → Polarity → Polarity
  | .positive, q => q
  | .negative, q => q.flip

/-- Of two signs, either may be turned. -/
theorem turn_flip (p q : Polarity) : turn p.flip q = turn p q.flip := by
  cases p <;> cases q <;> rfl

/-- An expression refers to a label in a part, behind an even or an odd number of negations. -/
inductive Uses (s : Schema) : ShapeExpr → Polarity → Label → Prop
  | ref {m : Mark} {l : Label} : Uses s (.ref m l) .positive l
  | and {m : Mark} {es : List ShapeExpr} {x : ShapeExpr} {p : Polarity} {l : Label} (hx : x ∈ es)
      (h : Uses s x p l) : Uses s (.and m es) p l
  | or {m : Mark} {es : List ShapeExpr} {x : ShapeExpr} {p : Polarity} {l : Label} (hx : x ∈ es)
      (h : Uses s x p l) : Uses s (.or m es) p l
  | not {m : Mark} {x : ShapeExpr} {p : Polarity} {l : Label} (h : Uses s x p l) :
      Uses s (.not m x) p.flip l
  | value {m : Mark} {h : ShapeHeader} {t : TripleExpr} {via : List Label} {m' : TripleMark}
      {a : Arc} {v : ShapeExpr} {p : Polarity} {l : Label}
      (hin : s.Inside via t (.constraint m' a (some v))) (hv : Uses s v p l) :
      Uses s (.shape m h (some t)) p l

variable {path : List Label} {e : ShapeExpr} {p : Polarity} {l : Label}

/-- A shape refers to what its value expressions refer to. -/
theorem Uses.of_hasPart {m : Mark} {h : ShapeHeader} {t : Option TripleExpr} {v : ShapeExpr}
    (hv : s.HasPart (.shape m h t) v) (huse : s.Uses v p l) : s.Uses (.shape m h t) p l := by
  cases hv with
  | value hin => exact .value hin huse

/-- Without negations all references have the positive sign. -/
theorem Uses.eq_positive (h : s.Uses e p l) (hnot : ∀ m x, ¬ s.Within e (.not m x)) :
    p = .positive := by
  induction h with
  | ref => rfl
  | and hx _ ih => exact ih fun m x hw => hnot m x (.head (.and hx) hw)
  | or hx _ ih => exact ih fun m x hw => hnot m x (.head (.or hx) hw)
  | not => exact absurd .refl (hnot _ _)
  | value hin _ ih => exact ih fun m x hw => hnot m x (.head (.value hin) hw)

/-- The labels of a path reach those that an expression refers to. -/
def Reenterable (s : Schema) (path : List Label) (ls : List Label) : Prop :=
  ∀ l₀ ∈ path, ∀ l ∈ ls, TransGen s.Mentions l₀ l

/-- The path to a value expression enters no label twice, and its labels reach those that the value
expression refers to. -/
theorem isPath_of_inside (hre : s.NeverReenters) {t y : TripleExpr} {via : List Label}
    (hin : s.Inside via t y) :
    ∀ {path : List Label} {m : TripleMark} {a : Arc} {v : ShapeExpr},
      y = .constraint m a (some v) → s.IsPath path → s.Reenterable path t.mentions →
      s.IsPath (via.reverse ++ path) ∧ s.Reenterable (via.reverse ++ path) v.mentions := by
  induction hin with
  | self e =>
    rintro path m a v rfl hpath hreach
    exact ⟨hpath, fun l₀ hl₀ l hl => hreach l₀ hl₀ l (TripleExpr.mem_mentions_constraint hl)⟩
  | eachOf he _ ih =>
    intro path m a v hy hpath hreach
    exact ih hy hpath fun l₀ hl₀ l hl =>
      hreach l₀ hl₀ l (TripleExpr.mem_mentions_eachOf.2 ⟨_, he, hl⟩)
  | oneOf he _ ih =>
    intro path m a v hy hpath hreach
    exact ih hy hpath fun l₀ hl₀ l hl =>
      hreach l₀ hl₀ l (TripleExpr.mem_mentions_oneOf.2 ⟨_, he, hl⟩)
  | repeated _ ih =>
    intro path m a v hy hpath hreach
    exact ih hy hpath (by rwa [TripleExpr.mentions_repeated] at hreach)
  | @ref _ l e _ via hl _ ih =>
    intro path m a v hy hpath hreach
    have hto : ∀ l₀ ∈ path, TransGen s.Mentions l₀ l := fun l₀ hl₀ =>
      hreach l₀ hl₀ l TripleExpr.mem_mentions_ref
    have hnew : l ∉ path := fun hmem => hre l (hto l hmem)
    have hpath' : s.IsPath (l :: path) :=
      ⟨List.nodup_cons.2 ⟨hnew, hpath.nodup⟩, List.forall_mem_cons.2 ⟨⟨e, hl⟩, hpath.declared⟩⟩
    have hreach' : s.Reenterable (l :: path) e.mentions := by
      intro l₀ hl₀ l' hl'
      have hstep : s.Mentions l l' := ⟨e, hl, hl'⟩
      rcases List.mem_cons.1 hl₀ with rfl | hl₀
      · exact .single hstep
      · exact (hto l₀ hl₀).tail hstep
    simpa using ih hy hpath' hreach'

/-- What an expression refers to in its parts is among its dependencies. Without extra predicates
the sign is that of the reference, in the context. -/
theorem Uses.mem_dependencies (hre : s.NeverReenters) (h : s.Uses e p l) :
    ∀ {path : List Label} {q : Polarity}, s.IsPath path → s.Reenterable path e.mentions →
      ∃ r, (l, r) ∈ s.dependenciesAfter path q e ∧
        ((∀ m h t, s.Within e (.shape m h t) → h.extra = []) → r = turn p q) := by
  induction h with
  | ref =>
    intro path q _ _
    rw [dependenciesAfter_ref]
    exact ⟨q, List.mem_singleton_self _, fun _ => rfl⟩
  | @and m es x p l hx _ ih =>
    intro path q hpath hreach
    obtain ⟨r, hr, hsign⟩ := @ih path q hpath fun l₀ hl₀ l hl =>
      hreach l₀ hl₀ l (ShapeExpr.mem_mentions_and hx hl)
    exact ⟨r, mem_dependenciesAfter_and.2 ⟨x, hx, hr⟩,
      fun hno => hsign fun m h t hw => hno m h t (.head (.and hx) hw)⟩
  | @or m es x p l hx _ ih =>
    intro path q hpath hreach
    obtain ⟨r, hr, hsign⟩ := @ih path q hpath fun l₀ hl₀ l hl =>
      hreach l₀ hl₀ l (ShapeExpr.mem_mentions_or hx hl)
    exact ⟨r, mem_dependenciesAfter_or.2 ⟨x, hx, hr⟩,
      fun hno => hsign fun m h t hw => hno m h t (.head (.or hx) hw)⟩
  | @not m x p l _ ih =>
    intro path q hpath hreach
    obtain ⟨r, hr, hsign⟩ := @ih path q.flip hpath fun l₀ hl₀ l hl =>
      hreach l₀ hl₀ l (ShapeExpr.mem_mentions_not hl)
    rw [dependenciesAfter_not, turn_flip]
    exact ⟨r, hr, fun hno => hsign fun m h t hw => hno m h t (.head .not hw)⟩
  | @value m h t via m' a v p l hin _ ih =>
    intro path q hpath hreach
    obtain ⟨hpath', hreach'⟩ := isPath_of_inside hre hin rfl hpath fun l₀ hl₀ l hl =>
      hreach l₀ hl₀ l (ShapeExpr.mem_mentions_of_triple hl)
    obtain ⟨r, hr, hsign⟩ := @ih _ (valueSign h.extra q a) hpath' hreach'
    refine ⟨r, mem_dependenciesAfter_of_value hin hpath' hr, fun hno => ?_⟩
    rw [hsign fun m h t hw => hno m h t (.head (.value hin) hw), valueSign,
      hno m h (some t) .refl, List.contains_nil, if_neg Bool.false_ne_true]

/-- What a declaration refers to in its parts it depends on. -/
theorem Uses.dependsOn (hre : s.NeverReenters) {c : Label} {d : ShapeDecl}
    (hd : s.shape? c = some d) (h : s.Uses d.expr p l) : s.DependsOn c l := by
  obtain ⟨r, hr, -⟩ := @Uses.mem_dependencies _ _ _ _ hre h [] .positive isPath_nil
    (by simp [Reenterable])
  exact ⟨d, hd, r, hr⟩

/-- Without extra predicates, what a declaration refers to under a negation it depends on
negatively. -/
theorem Uses.dependsNegatively (hre : s.NeverReenters) {c : Label} {d : ShapeDecl}
    (hd : s.shape? c = some d) (h : s.Uses d.expr .negative l)
    (hno : ∀ m h t, s.Within d.expr (.shape m h t) → h.extra = []) : s.DependsNegatively c l := by
  obtain ⟨r, hr, hsign⟩ := @Uses.mem_dependencies _ _ _ _ hre h [] .positive isPath_nil
    (by simp [Reenterable])
  rw [hsign hno] at hr
  exact ⟨d, hd, hr⟩

end Schema

end Shex
