import Shex.Proofs.Faults

/-!
# Analysis rules out structural faults

A run about an accepted schema never ends with a fault that says that the schema has a flaw
(`Validator.validate_not_structural`): all that evaluation comes to is declared, can be matched and
can be extended. That a matched constraint always has an owner is because the part of a plan claims
all constraints that are met in its main shape (`Schema.mem_reachableConstraints_iff`) and the
constraints of a form are copies of such ones. This needs a schema that is written, not made of
copies itself (`Schema.isWritten`).
-/

namespace Shex

open Relation

/-! ### Reachable constraints -/

namespace Schema

variable {s : Schema} {e x : TripleExpr} {via : List Label}

/-- The labels that the expression declared under a label refers to. -/
def refsOf (s : Schema) (l : Label) : List Label := (s.tripleExpr? l).elim [] TripleExpr.refs

/-- The references of a labelled triple expression, by its declaration. -/
theorem refsOf_eq {l : Label} (hl : s.tripleExpr? l = some e) : s.refsOf l = e.refs := by
  rw [refsOf, hl, Option.elim_some]

/-- What is met behind references is met without a reference in an expression whose label is reached
by references. -/
theorem Inside.exists_declared (h : s.Inside via e x) :
    s.Inside [] e x ∨ ∃ l ∈ e.refs, ∃ l' t,
      ReflTransGen (fun a b => b ∈ s.refsOf a) l l' ∧ s.tripleExpr? l' = some t ∧
        s.Inside [] t x := by
  induction h with
  | self e => exact .inl (.self e)
  | @eachOf m es e x via he _ ih =>
    rcases ih with hx | ⟨l, hl, hrest⟩
    · exact .inl (.eachOf he hx)
    · obtain ⟨m', hl⟩ := (@mem_refs_iff s _ _).1 hl
      exact .inr ⟨l, mem_refs_iff.2 ⟨m', .eachOf he hl⟩, hrest⟩
  | @oneOf m es e x via he _ ih =>
    rcases ih with hx | ⟨l, hl, hrest⟩
    · exact .inl (.oneOf he hx)
    · obtain ⟨m', hl⟩ := (@mem_refs_iff s _ _).1 hl
      exact .inr ⟨l, mem_refs_iff.2 ⟨m', .oneOf he hl⟩, hrest⟩
  | @repeated m e x c via _ ih =>
    rcases ih with hx | ⟨l, hl, hrest⟩
    · exact .inl (.repeated hx)
    · exact .inr ⟨l, hl, hrest⟩
  | @ref m l e x via hl _ ih =>
    refine .inr ⟨l, List.mem_singleton_self l, ?_⟩
    rcases ih with hx | ⟨l₁, hl₁, l', t, hreach, ht, hx⟩
    · exact ⟨l, e, .refl, hl, hx⟩
    · refine ⟨l', t, ReflTransGen.head ?_ hreach, ht, hx⟩
      rwa [refsOf_eq hl]

/-- The labels that are reached by references. The bound of the search is the number of all
references in the schema, which no search can use up. -/
theorem mem_closure_refsOf_iff {starts : List Label} {l : Label} :
    l ∈ closure s.refsOf (s.tripleExprs.values.flatMap TripleExpr.refs).length starts ↔
      ∃ a ∈ starts, ReflTransGen (fun a b => b ∈ s.refsOf a) a l := by
  have hentry : ∀ p ∈ s.tripleExprs.entries, s.refsOf p.1 = p.2.refs := fun p hp =>
    refsOf_eq ((Table.get?_eq_some_iff _).2 hp)
  refine mem_closure_iff s.tripleExprs.keys_nodup (fun a ha => ?_) (le_of_eq ?_)
  · rw [refsOf] at ha
    cases ht : s.tripleExpr? a with
    | none =>
      rw [ht] at ha
      exact absurd rfl ha
    | some t => exact List.mem_map.2 ⟨(a, t), (Table.get?_eq_some_iff _).1 ht, rfl⟩
  · rw [List.length_flatMap, Table.values, List.map_map, List.map_map]
    exact congrArg List.sum (List.map_congr_left fun p hp => congrArg List.length (hentry p hp))

/-- What is met in the expression of a label is met in what refers to the label. -/
theorem Inside.of_mem_refs {l : Label} {t : TripleExpr} (hl : l ∈ e.refs)
    (ht : s.tripleExpr? l = some t) (hx : s.Inside via t x) : s.Inside (l :: via) e x := by
  obtain ⟨m, hm⟩ := (@mem_refs_iff s _ _).1 hl
  exact hm.trans (.ref ht hx)

/-- The same for a label that is reached by references. The labels on the way are those that the
expression is met behind. -/
theorem Inside.of_reflTransGen {a l : Label} {t : TripleExpr}
    (h : ReflTransGen (fun a b => b ∈ s.refsOf a) a l) (ht : s.tripleExpr? l = some t)
    (hx : s.Inside via t x) : ∃ via' t', s.tripleExpr? a = some t' ∧ s.Inside via' t' x := by
  induction h using ReflTransGen.head_induction_on with
  | refl => exact ⟨via, t, ht, hx⟩
  | @head a b hab _ ih =>
    obtain ⟨via', t', ht', hx'⟩ := ih
    cases hta : s.tripleExpr? a with
    | none =>
      rw [refsOf, hta] at hab
      cases hab
    | some ta =>
      rw [refsOf_eq hta] at hab
      exact ⟨b :: via', ta, rfl, hx'.of_mem_refs hab ht'⟩

/-- The reachable constraints are those that are met in the expression. Those that are written in it
come first, and those of the labels it reaches behind them. -/
theorem mem_reachableConstraints_iff {c : TripleConstraint} :
    c ∈ s.reachableConstraints e ↔ ∃ via, s.Inside via e (.constraint c.mark c.arc c.value) := by
  unfold reachableConstraints
  simp only
  rw [List.mem_append, List.mem_flatMap, @mem_constraints_iff s]
  constructor
  · rintro (h | ⟨l, hl, hc⟩)
    · exact ⟨[], h⟩
    · obtain ⟨a, ha, hreach⟩ := mem_closure_refsOf_iff.1 hl
      cases ht : s.tripleExpr? l with
      | none =>
        rw [ht] at hc
        cases hc
      | some t =>
        rw [ht, Option.elim_some, @mem_constraints_iff s] at hc
        obtain ⟨via, t', ht', hx⟩ := Inside.of_reflTransGen hreach ht hc
        exact ⟨a :: via, hx.of_mem_refs ha ht'⟩
  · rintro ⟨via, h⟩
    rcases h.exists_declared with hx | ⟨l, hl, l', t, hreach, ht, hx⟩
    · exact .inl hx
    · refine .inr ⟨l', mem_closure_refsOf_iff.2 ⟨l, hl, hreach⟩, ?_⟩
      rw [ht, Option.elim_some]
      exact mem_constraints_iff.2 hx

end Schema

/-! ### Written expressions -/

namespace TripleExpr

mutual

/-- Whether no node of an expression, outside of value expressions, is a copy. -/
def isWritten : TripleExpr → Bool
  | .eachOf m es | .oneOf m es => m.origin.isNone && allWritten es
  | .repeated m e _ => m.origin.isNone && e.isWritten
  | .constraint m _ _ | .ref m _ | .empty m => m.origin.isNone

/-- Whether no node of the expressions of a list is a copy. -/
def allWritten : List TripleExpr → Bool
  | [] => true
  | e :: es => e.isWritten && allWritten es

end

/-- A list can be checked element by element. -/
theorem allWritten_iff {es : List TripleExpr} :
    allWritten es = true ↔ ∀ e ∈ es, e.isWritten = true := by
  induction es with
  | nil => simp [allWritten]
  | cons e es ih => rw [allWritten, Bool.and_eq_true, ih, List.forall_mem_cons]

/-- The outermost node of a written expression is no copy. -/
theorem isWritten_mark {e : TripleExpr} (h : e.isWritten = true) : e.mark.origin = none := by
  cases e <;> simp_all [isWritten, mark]

/-- A node that is no copy is its own source. -/
theorem isWritten_source {e : TripleExpr} (h : e.isWritten = true) : e.source = e.mark.toMark := by
  rw [source, TripleMark.source, isWritten_mark h, Option.getD_none]

end TripleExpr

namespace Schema

variable {s : Schema} {e x : TripleExpr} {via : List Label}

/-- Whether no node of a triple expression of the schema is a copy. -/
def isWritten (s : Schema) : Bool :=
  s.expressions.all (fun x => (x.shape?.bind Shape.expression).all TripleExpr.isWritten) &&
    s.tripleExprs.values.all TripleExpr.isWritten

/-- What is met in an expression that is written is written: references lead to expressions of the
schema, and these are written too. -/
theorem Inside.isWritten (hs : s.isWritten = true) (h : s.Inside via e x)
    (he : e.isWritten = true) : x.isWritten = true := by
  induction h with
  | self => exact he
  | eachOf hmem _ ih =>
    rw [TripleExpr.isWritten, Bool.and_eq_true, TripleExpr.allWritten_iff] at he
    exact ih (he.2 _ hmem)
  | oneOf hmem _ ih =>
    rw [TripleExpr.isWritten, Bool.and_eq_true, TripleExpr.allWritten_iff] at he
    exact ih (he.2 _ hmem)
  | repeated _ ih =>
    rw [TripleExpr.isWritten, Bool.and_eq_true] at he
    exact ih he.2
  | @ref m l e x via hl _ ih =>
    rw [Schema.isWritten, Bool.and_eq_true, List.all_eq_true, List.all_eq_true] at hs
    exact ih (hs.2 e (List.mem_map.2 ⟨(l, e), (Table.get?_eq_some_iff _).1 hl, rfl⟩))

/-- What is met in a shape of a schema that is written is no copy. -/
theorem origin_eq_none (hs : s.isWritten = true) {m : Mark} {hd : ShapeHeader}
    (hx : s.Has (.shape m hd (some e))) (h : s.Inside via e x) : x.mark.origin = none := by
  have hwritten := hs
  rw [isWritten, Bool.and_eq_true, List.all_eq_true] at hwritten
  have he := hwritten.1 _ (has_iff_mem_expressions.1 hx)
  exact TripleExpr.isWritten_mark (h.isWritten hs (by simpa [ShapeExpr.shape?] using he))

end Schema

/-! ### Owners -/

namespace Setting

open Run

variable {σ : Type} {st : Setting σ} {l : Label} {plan : Plan}

/-- In a schema that is written, a constraint of a plan belongs to one of the parts. Its source is
then the constraint itself as it is met in the part, under its own identity. -/
theorem IsPlan.exists_owner (hacc : st.validator.IsAccepted)
    (hhier : st.validator.hierarchy = .ofSchema st.validator.schema)
    (hwritten : st.validator.schema.isWritten = true) (hplan : st.IsPlan l plan)
    {c : TripleConstraint} (hc : c ∈ plan.form.constraints) :
    ∃ i, plan.ownerOf c = some i := by
  obtain ⟨e, he, via, m, hin, hsource⟩ :=
    hplan.form.inside hacc (fun e he => hplan.has_expression hhier he) hc
  obtain ⟨p, hp, hpe⟩ := List.mem_filterMap.1 he
  obtain ⟨mk, hd, hhas⟩ := hplan.has_expression hhier he
  have horigin : m.origin = none := Schema.origin_eq_none hwritten hhas hin
  have hid : c.mark.source.id = m.id := by
    rw [← hsource, TripleMark.source, horigin, Option.getD_none]
  have howned : c.mark.source.id ∈ p.owned := by
    rw [(hplan.isPart hhier hp).2.owned, hpe, Option.elim_some, hid]
    exact List.mem_map.2
      ⟨⟨m, c.arc, c.value⟩, Schema.mem_reachableConstraints_iff.2 ⟨via, hin⟩, rfl⟩
  refine Option.isSome_iff_exists.1 ?_
  rw [Plan.ownerOf, List.findIdx?_isSome, List.any_eq_true]
  exact ⟨p, hp, List.contains_iff_mem.2 howned⟩

/-- Evaluation has no structural faults of its own. -/
theorem admits_not_structural (hv : st.validator.IsBuilt)
    (hwritten : st.validator.schema.isWritten = true) :
    st.Admits fun f => ¬ f.IsStructural := by
  have hacc := hv.accepted
  have hhier := hv.hierarchy
  refine ⟨fun f hf => hf.1, fun l plan id _ hplan hid hnone => ?_⟩
  obtain ⟨c, hc, rfl⟩ := List.mem_map.1 hid
  obtain ⟨i, hi⟩ := hplan.exists_owner hacc hhier hwritten hc
  rw [Plan.ownerOfId, hplan.constraint?_eq_some hhier hacc hc, Option.bind_some, hi] at hnone
  cases hnone

end Setting

/-! ### Runs -/

/-- A run about an accepted schema that is written never says that a label is not declared, that an
expression cannot be matched or that a state has come about that should not, whatever the limits,
the handlers, the graph and the pairs are, and whatever the validator remembers. -/
theorem Validator.validate_not_structural {σ : Type} {v : Validator}
    (hv : v.IsBuilt) (hco : v.schema.IsCoherent)
    (hwritten : v.schema.isWritten = true) {memo : Memo} (hmemo : v.Remembers memo)
    (limits : Limits) (handlers : Handlers σ) (graph : GraphView) (pairs : List (Term × Selector))
    (world : σ) :
    ∀ fault, (v.validate limits handlers graph pairs memo world).1 = .error fault →
      ¬ fault.IsStructural := by
  intro fault hfault
  let st : Setting σ := ⟨v, limits, handlers, graph⟩
  have hmeets : Run.Meets (fun s => st.KnowsMemo s.memo) (st.run pairs) (fun _ => True)
      fun f => ¬ f.IsStructural :=
    Setting.run_meets_of_admits hv hco (Setting.admits_not_structural hv hwritten) (fun _ => id)
      pairs
  exact Setting.fault_of_validate hv hco hmemo hmeets hfault

/-! ### Example -/

/-- `<Base> { p . }` and `<Child> EXTENDS @<Base> { ( q . %act{ %} ){2} }` -/
def actingSchema : Schema :=
  (Schema.empty.addShape (.iri ⟨"Base"⟩) ⟨false, .shape ⟨⟨0⟩, []⟩ .plain
    (some (.constraint (.written ⟨⟨1⟩, []⟩) ⟨⟨"p"⟩, false⟩ none))⟩).addShape (.iri ⟨"Child"⟩)
    ⟨false, .shape ⟨⟨2⟩, []⟩ ⟨false, [], [.iri ⟨"Base"⟩]⟩ (some
      (.repeated (.written ⟨⟨3⟩, []⟩)
        (.constraint (.written ⟨⟨4⟩, [⟨⟨"act"⟩, none⟩]⟩) ⟨⟨"q"⟩, false⟩ none) (.exactly 2)))⟩

/-- A handler that accepts a first call and fails at the next. -/
def onlyOnce : Handlers Bool :=
  Table.empty.insert ⟨"act"⟩ fun _ _ used => (if used then .error "again" else .ok true, true)

/-- The check of `n` against `<Child>` about `n p n`, `n q n` and `n q m`. -/
def checkActing (memo : Memo) (used : Bool) : Except ValidationFault Report × Memo × Bool :=
  (settingOf actingSchema []).validator.validate .standard onlyOnce
    (Graph.ofList [link "n" "p" "n", link "n" "q" "n", link "n" "q" "m"]).view
    [(.resource (.iri ⟨"n"⟩), .label (.iri ⟨"Child"⟩))] memo used

/-- A run that begins with what another one has computed and with its handlers' state ends because
the handler fails, and that is no flaw of the schema. -/
theorem failing_handler_not_structural :
    ∃ fault, (checkActing (checkActing .empty false).2.1 (checkActing .empty false).2.2).1 =
      .error fault ∧ ¬ fault.IsStructural := by
  have hfault : (checkActing (checkActing .empty false).2.1 (checkActing .empty false).2.2).1 =
      .error (.actionFailed ⟨"act"⟩ "again") := by decide +kernel
  have hmemo : (settingOf actingSchema []).validator.Remembers (checkActing .empty false).2.1 :=
    .run .nothing _ _ _ _ _
  exact ⟨_, hfault, Validator.validate_not_structural ⟨rfl, rfl⟩
    (Schema.isCoherent_of_nodup (by decide) (by decide)) (by decide) hmemo _ _ _ _ _ _ hfault⟩

end Shex
