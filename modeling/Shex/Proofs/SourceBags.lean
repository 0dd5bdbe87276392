import Shex.Proofs.Normalization
import Shex.Proofs.Structural

/-!
# Bags of schema constraints

A triple expression as a set of bags over the triple constraints themselves (`Schema.bags`). The
constraints of a form are copies, and each of them has a constraint of the schema as its source. If
every constraint in the bags of a form is replaced by its source, what comes out are the bags of the
expression that was normalized (`TripleExpr.normalize_bags`). Nothing is asked of the schema: where
a reference is dangling or circular there is no form.
-/

open scoped Pointwise

namespace Shex

/-- A triple constraint denotes one occurrence of itself. -/
def AtomLanguage.itself : AtomLanguage TripleConstraint := fun m a v => {{⟨m, a, v⟩}}

/-- A triple constraint denotes one occurrence of its source. -/
def AtomLanguage.bySource : AtomLanguage TripleConstraint :=
  fun m a v => {{⟨.written m.source, a, v⟩}}

/-- The constraint of the schema that a constraint is a copy of, or the constraint itself. -/
def TripleConstraint.source (c : TripleConstraint) : TripleConstraint :=
  ⟨.written c.mark.source, c.arc, c.value⟩

/-- The bags of triple constraints that an expression stands for. -/
def Schema.bags (s : Schema) (e : TripleExpr) : BagLanguage TripleConstraint :=
  {M | s.Denotes .itself e M}

/-- A constraint that is no copy is its own source. -/
theorem TripleConstraint.source_eq_self {c : TripleConstraint} (h : c.mark.origin = none) :
    c.source = c := by
  obtain ⟨⟨m, origin⟩, a, v⟩ := c
  obtain rfl : origin = none := h
  rfl

namespace Schema

section
variable {α β : Type} {s : Schema} {atom : AtomLanguage α} {atom' : AtomLanguage β} {g : α → β}

mutual

/-- If what constraints denote is translated, so is what expressions denote. -/
theorem Denotes.map (h : ∀ m a v, ∀ M ∈ atom m a v, M.map g ∈ atom' m a v) :
    ∀ {e : TripleExpr} {M : Multiset α}, s.Denotes atom e M → s.Denotes atom' e (M.map g)
  | _, _, .eachOf hes => .eachOf (hes.map h)
  | _, _, .oneOf he hM => .oneOf he (hM.map h)
  | _, _, .repeated hk hM => .repeated hk (hM.map h)
  | _, _, .constraint hM => .constraint (h _ _ _ _ hM)
  | _, _, .ref hl hM => .ref hl (hM.map h)
  | _, _, .empty => .empty

/-- The same for groups. -/
theorem DenotesAll.map (h : ∀ m a v, ∀ M ∈ atom m a v, M.map g ∈ atom' m a v) :
    ∀ {es : List TripleExpr} {M : Multiset α},
      s.DenotesAll atom es M → s.DenotesAll atom' es (M.map g)
  | _, _, .nil => .nil
  | _, _, .cons hM hN => by
    rw [Multiset.map_add]
    exact .cons (hM.map h) (hN.map h)

/-- The same for repetitions. -/
theorem DenotesTimes.map (h : ∀ m a v, ∀ M ∈ atom m a v, M.map g ∈ atom' m a v) :
    ∀ {e : TripleExpr} {k : Nat} {M : Multiset α},
      s.DenotesTimes atom e k M → s.DenotesTimes atom' e k (M.map g)
  | _, _, _, .zero => .zero
  | _, _, _, .succ hM hN => by
    rw [Multiset.map_add]
    exact .succ (hM.map h) (hN.map h)

end

mutual

/-- If constraints denote nothing but translations, so do expressions. -/
theorem Denotes.of_map (h : ∀ m a v, ∀ N ∈ atom' m a v, ∃ M ∈ atom m a v, M.map g = N) :
    ∀ {e : TripleExpr} {N : Multiset β}, s.Denotes atom' e N → ∃ M, s.Denotes atom e M ∧ M.map g = N
  | _, _, .eachOf hes => let ⟨M, hM, hN⟩ := hes.of_map h; ⟨M, .eachOf hM, hN⟩
  | _, _, .oneOf he hN => let ⟨M, hM, hN⟩ := hN.of_map h; ⟨M, .oneOf he hM, hN⟩
  | _, _, .repeated hk hN => let ⟨M, hM, hN⟩ := hN.of_map h; ⟨M, .repeated hk hM, hN⟩
  | _, _, .constraint hN => let ⟨M, hM, hN⟩ := h _ _ _ _ hN; ⟨M, .constraint hM, hN⟩
  | _, _, .ref hl hN => let ⟨M, hM, hN⟩ := hN.of_map h; ⟨M, .ref hl hM, hN⟩
  | _, _, .empty => ⟨0, .empty, rfl⟩

/-- The same for groups. -/
theorem DenotesAll.of_map (h : ∀ m a v, ∀ N ∈ atom' m a v, ∃ M ∈ atom m a v, M.map g = N) :
    ∀ {es : List TripleExpr} {N : Multiset β},
      s.DenotesAll atom' es N → ∃ M, s.DenotesAll atom es M ∧ M.map g = N
  | _, _, .nil => ⟨0, .nil, rfl⟩
  | _, _, .cons hM hN => by
    obtain ⟨A, hA, rfl⟩ := hM.of_map h
    obtain ⟨B, hB, rfl⟩ := hN.of_map h
    exact ⟨A + B, .cons hA hB, Multiset.map_add ..⟩

/-- The same for repetitions. -/
theorem DenotesTimes.of_map (h : ∀ m a v, ∀ N ∈ atom' m a v, ∃ M ∈ atom m a v, M.map g = N) :
    ∀ {e : TripleExpr} {k : Nat} {N : Multiset β},
      s.DenotesTimes atom' e k N → ∃ M, s.DenotesTimes atom e k M ∧ M.map g = N
  | _, _, _, .zero => ⟨0, .zero, rfl⟩
  | _, _, _, .succ hM hN => by
    obtain ⟨A, hA, rfl⟩ := hM.of_map h
    obtain ⟨B, hB, rfl⟩ := hN.of_map h
    exact ⟨A + B, .succ hA hB, Multiset.map_add ..⟩

end

end

variable {s : Schema} {e : TripleExpr}

/-- A constraint is met in an expression, behind any references. -/
def HasConstraint (s : Schema) (e : TripleExpr) (c : TripleConstraint) : Prop :=
  ∃ via, s.Inside via e (.constraint c.mark c.arc c.value)

/-- No constraint is a copy if expression and schema are written. -/
theorem origin_of_hasConstraint (hs : s.isWritten = true) (he : e.isWritten = true)
    {c : TripleConstraint} (h : s.HasConstraint e c) : c.mark.origin = none := by
  obtain ⟨via, hx⟩ := h
  exact TripleExpr.isWritten_mark (hx.isWritten hs he)

mutual

/-- The bags of an expression have only constraints that are met in it, behind references if need
be. The recursion is that of the derivation. -/
theorem hasConstraint_of_denotes :
    ∀ {e : TripleExpr} {M : Multiset TripleConstraint}, s.Denotes .itself e M →
      ∀ c ∈ M, s.HasConstraint e c
  | _, _, .eachOf hes, c, hc =>
    let ⟨_, he, via, h⟩ := hasConstraint_of_denotesAll hes c hc
    ⟨via, .eachOf he h⟩
  | _, _, .oneOf he hM, c, hc =>
    let ⟨via, h⟩ := hasConstraint_of_denotes hM c hc
    ⟨via, .oneOf he h⟩
  | _, _, .repeated _ hM, c, hc =>
    let ⟨via, h⟩ := hasConstraint_of_denotesTimes hM c hc
    ⟨via, .repeated h⟩
  | _, _, .constraint hM, c, hc => by
    obtain rfl := Set.mem_singleton_iff.1 hM
    obtain rfl := Multiset.mem_singleton.1 hc
    exact ⟨[], .self _⟩
  | _, _, .ref hl hM, c, hc =>
    let ⟨_, h⟩ := hasConstraint_of_denotes hM c hc
    ⟨_, .ref hl h⟩
  | _, _, .empty, c, hc => absurd hc (Multiset.notMem_zero c)

/-- The same for groups. -/
theorem hasConstraint_of_denotesAll :
    ∀ {es : List TripleExpr} {M : Multiset TripleConstraint}, s.DenotesAll .itself es M →
      ∀ c ∈ M, ∃ e ∈ es, s.HasConstraint e c
  | _, _, .nil, c, hc => absurd hc (Multiset.notMem_zero c)
  | _, _, .cons hM hN, c, hc => by
    rcases Multiset.mem_add.1 hc with hc | hc
    · exact ⟨_, List.mem_cons_self, hasConstraint_of_denotes hM c hc⟩
    · obtain ⟨e, he, h⟩ := hasConstraint_of_denotesAll hN c hc
      exact ⟨e, List.mem_cons_of_mem _ he, h⟩

/-- The same for repetitions. -/
theorem hasConstraint_of_denotesTimes :
    ∀ {e : TripleExpr} {k : Nat} {M : Multiset TripleConstraint}, s.DenotesTimes .itself e k M →
      ∀ c ∈ M, s.HasConstraint e c
  | _, _, _, .zero, c, hc => absurd hc (Multiset.notMem_zero c)
  | _, _, _, .succ hM hN, c, hc =>
    (Multiset.mem_add.1 hc).elim (hasConstraint_of_denotes hM c)
      (hasConstraint_of_denotesTimes hN c)

end

/-- The bags of sources are what the expression denotes if constraints denote their sources. -/
theorem source_bags : Multiset.map TripleConstraint.source '' s.bags e =
    {M | s.Denotes .bySource e M} := by
  ext N
  constructor
  · rintro ⟨M, hM, rfl⟩
    refine Denotes.map (fun m a v M hM => ?_) hM
    obtain rfl := Set.mem_singleton_iff.1 hM
    rfl
  · intro hN
    refine Denotes.of_map (fun m a v N hN => ⟨{⟨m, a, v⟩}, rfl, ?_⟩) hN
    exact (Set.mem_singleton_iff.1 hN).symm

/-- If no copies are met in an expression, its bags are made of sources. -/
theorem source_bags_of_written (h : ∀ c, s.HasConstraint e c → c.mark.origin = none) :
    Multiset.map TripleConstraint.source '' s.bags e = s.bags e := by
  have hself : ∀ M ∈ s.bags e, M.map TripleConstraint.source = M := fun M hM =>
    (Multiset.map_congr rfl fun c hc =>
      TripleConstraint.source_eq_self (h c (hasConstraint_of_denotes hM c hc))).trans
        (Multiset.map_id' M)
  rw [Set.image_congr hself, Set.image_id']

end Schema

namespace TripleExpr

variable {S : Schema} {e : TripleExpr} {f : Form} {limit : Nat} {fresh : ExprId}

/-- A form that is not the expression itself is a copy of it. -/
theorem normalize_copied {α : Type} (atom : AtomLanguage α)
    (hcopy : ∀ m id a v, atom (m.copy id) a v = atom m a v) (hatom : ∀ m a v, 0 ∉ atom m a v)
    (hs : e.isSorbe = false) (h : e.normalize S limit fresh = .ok f) :
    ∃ t, Normalize.CopyOf atom S e ⟨fresh, limit, []⟩ f.expr t := by
  obtain ⟨t, ht, -⟩ := exists_of_normalize hs
    (Normalize.expr_meets (F := fun _ => True) hcopy hatom (fun _ => trivial)
      (fun l _ => Normalize.resolve_copies hcopy hatom limit _ [] l) _) h
  exact ⟨t, ht⟩

/-- A form denotes what the expression denotes, under any reading of constraints that copies
share with their sources. -/
theorem normalize_language {α : Type} (atom : AtomLanguage α)
    (hcopy : ∀ m id a v, atom (m.copy id) a v = atom m a v) (hatom : ∀ m a v, 0 ∉ atom m a v)
    (h : e.normalize S limit fresh = .ok f) :
    f.expr.language atom (S.labelLanguage atom) = e.language atom (S.labelLanguage atom) := by
  cases hs : e.isSorbe with
  | true =>
    rw [normalize, if_pos hs] at h
    cases h
    rfl
  | false =>
    obtain ⟨t, ht⟩ := normalize_copied atom hcopy hatom hs h
    exact ht.language _

/-- Normalization keeps the meaning: with each constraint replaced by its source, the bags of a form
are those of the expression that was normalized. An expression of a schema has no copies, and its
bags are then made of sources as they stand. -/
theorem normalize_bags (h : e.normalize S limit fresh = .ok f) :
    Multiset.map TripleConstraint.source '' S.bags f.expr =
        Multiset.map TripleConstraint.source '' S.bags e ∧
      ((∀ c, S.HasConstraint e c → c.mark.origin = none) →
        Multiset.map TripleConstraint.source '' S.bags f.expr = S.bags e) := by
  have hlang := normalize_language .bySource (fun _ _ _ _ => rfl)
    (fun m a v h0 => Multiset.singleton_ne_zero _ (Set.mem_singleton_iff.1 h0).symm) h
  have heq : Multiset.map TripleConstraint.source '' S.bags f.expr =
      Multiset.map TripleConstraint.source '' S.bags e := by
    rw [Schema.source_bags, Schema.source_bags]
    ext M
    rw [Set.mem_ofPred_eq, Set.mem_ofPred_eq, ← Schema.mem_language_iff, hlang,
      Schema.mem_language_iff]
  exact ⟨heq, fun hw => heq.trans (Schema.source_bags_of_written hw)⟩

/-! ### Example -/

/-- `$<T> ( r . | s .{2} )` -/
def choiceSchema : Schema :=
  Schema.empty.addTripleExpr (.iri ⟨"T"⟩)
    (.oneOf (.written ⟨⟨0⟩, []⟩)
      [.constraint (.written ⟨⟨1⟩, []⟩) ⟨⟨"r"⟩, false⟩ none,
        .repeated (.written ⟨⟨2⟩, []⟩)
          (.constraint (.written ⟨⟨3⟩, []⟩) ⟨⟨"s"⟩, false⟩ none) (.exactly 2)])

/-- `( p . ; &<T>* ){2,3} ; ( p . | q .? )+`, with one node for both `p .` -/
def nestedRepetition : TripleExpr :=
  let p : TripleExpr := .constraint (.written ⟨⟨10⟩, []⟩) ⟨⟨"p"⟩, false⟩ none
  .eachOf (.written ⟨⟨11⟩, []⟩)
    [.repeated (.written ⟨⟨12⟩, []⟩)
        (.eachOf (.written ⟨⟨13⟩, []⟩)
          [p, .repeated (.written ⟨⟨14⟩, []⟩) (.ref (.written ⟨⟨15⟩, []⟩) (.iri ⟨"T"⟩)) .star])
        (.ofBounds 2 (some 3)),
      .repeated (.written ⟨⟨16⟩, []⟩)
        (.oneOf (.written ⟨⟨17⟩, []⟩)
          [p, .repeated (.written ⟨⟨18⟩, []⟩)
            (.constraint (.written ⟨⟨19⟩, []⟩) ⟨⟨"q"⟩, false⟩ none) .optional])
        .plus]

/-- Three copies of the group in `nestedRepetition` are made, and the bags stay the same. Its
constraints are no copies, so this is so for the bags as they stand. -/
theorem nestedRepetition_bags :
    ∃ f, nestedRepetition.normalize choiceSchema 40 ⟨20⟩ = .ok f ∧ f.constraints.length = 11 ∧
      Multiset.map TripleConstraint.source '' choiceSchema.bags f.expr =
        choiceSchema.bags nestedRepetition := by
  have hcount : (nestedRepetition.normalize choiceSchema 40 ⟨20⟩).toOption.map
      (·.constraints.length) = some 11 := by decide +kernel
  cases hf : nestedRepetition.normalize choiceSchema 40 ⟨20⟩ with
  | error fault =>
    rw [hf] at hcount
    cases hcount
  | ok f =>
    rw [hf] at hcount
    refine ⟨f, rfl, Option.some.inj hcount, (normalize_bags hf).2 fun c hc => ?_⟩
    exact Schema.origin_of_hasConstraint (by decide +kernel) (by decide +kernel) hc

end TripleExpr

end Shex
