import Shex.Proofs.Recordings

/-!
# Actions and the constraints they belong to

The semantic actions of a node are run for the triples of the constraints that stand for it. Which
these are can be told from the expression alone. The constraints of a form stand for the paths of
nodes in the expression (`Schema.Paths`) in the same order, and a constraint belongs to the actions
of every node on its path (`TripleExpr.normalize_attributes`).

The table in a form is made of the list of recordings: one entry for each node, in the order in
which the nodes were recorded first (`Tabulates`).
-/

namespace Shex

open TripleExpr

/-! ### What precedes in a list -/

/-- For every element of a list, `P` holds of the elements before it and the element. -/
def AllFollow {α : Type} (P : List α → α → Prop) (l : List α) : Prop :=
  ∀ before a after, l = before ++ a :: after → P before a

namespace AllFollow

variable {α : Type} {P Q : List α → α → Prop} {l l' : List α}

/-- There is nothing to hold. -/
theorem nil : AllFollow P [] := by simp [AllFollow]

/-- A weaker condition on every element. -/
theorem imp (h : AllFollow P l) (hPQ : ∀ before a, P before a → Q before a) : AllFollow Q l :=
  fun before a after heq => hPQ before a (h before a after heq)

/-- In a list of two parts, the elements of the second come after those of the first and the ones
before them in their part. -/
theorem append (h : AllFollow P l) (h' : AllFollow (fun before => P (l ++ before)) l') :
    AllFollow P (l ++ l') := by
  intro before a after heq
  rcases List.append_eq_append_iff.1 heq with ⟨mid, rfl, hl'⟩ | ⟨mid, hl, hafter⟩
  · exact h' mid a after hl'
  · cases mid with
    | nil =>
      rw [List.append_nil] at hl
      have ha : P (l ++ []) a := h' [] a after hafter.symm
      rwa [List.append_nil, hl] at ha
    | cons b mid =>
      obtain ⟨rfl, -⟩ := List.cons.inj hafter
      exact h before a mid hl

/-- One more element at the end, with all others before it. -/
theorem concat (h : AllFollow P l) {a : α} (ha : P l a) : AllFollow P (l ++ [a]) := by
  refine h.append fun before b after heq => ?_
  cases before with
  | nil =>
    obtain ⟨rfl, -⟩ := List.cons.inj heq
    rwa [List.append_nil]
  | cons c before => simp at heq

end AllFollow

/-- An element of a list with one more at the end. -/
theorem exists_mem_concat {α : Type} {l : List α} {a : α} {p : α → Prop} :
    (∃ b ∈ l ++ [a], p b) ↔ (∃ b ∈ l, p b) ∨ p a := by
  simp only [List.mem_append, List.mem_singleton, exists_or_eq_imp]

/-! ### What the recordings are -/

namespace Schema

variable {S : Schema} {x : TripleExpr} {r : Recording} {before before' : List Recording} {mk : Mark}

mutual

/-- The nodes that are recorded are those that are met. Every node on the way is recorded, so the
recursion is that of what is met: the node itself, or what is met in one of its operands. -/
theorem Attributes.met : ∀ {x : TripleExpr} {cs : List TripleConstraint} {rs : List Recording},
    S.Attributes x cs rs →
      ((∃ r ∈ rs, r.1 = mk) ↔ ∃ via y, S.Inside via x y ∧ y.source = mk)
  | _, _, _, .constraint _ => by
    rw [List.exists_mem_cons_iff, or_iff_left (by simp)]
    constructor
    · exact fun hmk => ⟨[], _, .self _, hmk⟩
    · rintro ⟨via, y, hy, hmk⟩
      cases hy
      exact hmk
  | x, _, _, .node hops hes => by
    rw [exists_mem_concat, hes.met]
    constructor
    · rintro (⟨e, he, via, y, hy, hmk⟩ | hmk)
      · obtain ⟨via', hy'⟩ := hops.inside he hy
        exact ⟨via', y, hy', hmk⟩
      · exact ⟨[], x, .self x, hmk⟩
    · rintro ⟨via, y, hy, hmk⟩
      rcases hops.of_inside hy with rfl | ⟨e, he, via', hy'⟩
      · exact .inr hmk
      · exact .inl ⟨e, he, via', y, hy', hmk⟩

/-- The same for the operands of a node. -/
theorem AttributesAll.met : ∀ {es : List TripleExpr} {cs : List TripleConstraint}
    {rs : List Recording}, S.AttributesAll es cs rs →
      ((∃ r ∈ rs, r.1 = mk) ↔ ∃ e ∈ es, ∃ via y, S.Inside via e y ∧ y.source = mk)
  | _, _, _, .nil => by simp
  | _, _, _, .cons he hes => by
    simp only [List.mem_append, or_and_right, exists_or, he.met, hes.met, List.exists_mem_cons_iff]

end

/-- A node with the mark of `r` is met in `x`, and what is inside it is recorded in `before`. -/
def InnerRecorded (S : Schema) (x : TripleExpr) (before : List Recording) (r : Recording) : Prop :=
  ∃ via y, S.Inside via x y ∧ y.source = r.1 ∧
    ∀ via' z, S.Inside via' y z → z = y ∨ ∃ r' ∈ before, r'.1 = z.source

/-- What is recorded before stays recorded. -/
theorem InnerRecorded.mono (h : S.InnerRecorded x before r) (hsub : before ⊆ before') :
    S.InnerRecorded x before' r := by
  obtain ⟨via, y, hy, hr, hin⟩ := h
  exact ⟨via, y, hy, hr, fun via' z hz =>
    (hin via' z hz).imp_right fun ⟨r', hr', hsource⟩ => ⟨r', hsub hr', hsource⟩⟩

mutual

/-- Inner nodes are recorded first: a node is recorded after its operands, and what is met in it
beside itself is met in one of them. -/
theorem Attributes.inner : ∀ {x : TripleExpr} {cs : List TripleConstraint} {rs : List Recording},
    S.Attributes x cs rs → AllFollow (S.InnerRecorded x) rs
  | _, _, _, .constraint _ => by
    refine AllFollow.concat .nil ⟨[], _, .self _, rfl, fun via' z hz => .inl ?_⟩
    cases hz
    rfl
  | x, _, _, .node hops hes => by
    have hoperands := hes.inner.imp (Q := S.InnerRecorded x) fun before r ⟨e, he, via, y, hy, hr⟩ =>
      let ⟨via', hy'⟩ := hops.inside he hy
      ⟨via', y, hy', hr⟩
    refine hoperands.concat ⟨[], x, .self x, rfl, fun via z hz => ?_⟩
    exact (hops.of_inside hz).imp_right fun ⟨e, he, via', hz'⟩ =>
      hes.met.2 ⟨e, he, via', z, hz', rfl⟩

/-- The same for the operands of a node: the recordings of one operand come after those of the
operands before. -/
theorem AttributesAll.inner : ∀ {es : List TripleExpr} {cs : List TripleConstraint}
    {rs : List Recording}, S.AttributesAll es cs rs →
      AllFollow (fun before r => ∃ e ∈ es, S.InnerRecorded e before r) rs
  | _, _, _, .nil => .nil
  | _, _, _, .cons he hes => by
    refine (he.inner.imp fun before r h => ⟨_, List.mem_cons_self, h⟩).append
      (hes.inner.imp fun before r ⟨e, hmem, h⟩ => ⟨e, List.mem_cons_of_mem _ hmem, ?_⟩)
    exact h.mono (List.subset_append_right _ _)

end

/-- Each of the constraints has a path that ends in it, and is recorded for the nodes on it. -/
structure Traced (ps : List (List TripleExpr × TripleConstraint)) (cs : List TripleConstraint)
    (rs : List Recording) : Prop where
  constraints : ps.map Prod.snd = cs
  ends : ∀ p ∈ ps, p.2.Ends p.1
  recorded : ∀ mk id, (∃ r ∈ rs, r.1 = mk ∧ id ∈ r.2) ↔
    ∃ p ∈ ps, p.2.id = id ∧ ∃ x ∈ p.1, x.source = mk

section
variable {ps ps' : List (List TripleExpr × TripleConstraint)} {cs cs' : List TripleConstraint}
  {rs rs' : List Recording}

/-- Constraints and recordings of two runs of operands, one after the other. -/
theorem Traced.append (h : Traced ps cs rs) (h' : Traced ps' cs' rs') :
    Traced (ps ++ ps') (cs ++ cs') (rs ++ rs') := by
  refine ⟨by rw [List.map_append, h.constraints, h'.constraints],
    List.forall_mem_append.2 ⟨h.ends, h'.ends⟩, fun mk id => ?_⟩
  simp only [List.mem_append, or_and_right, exists_or, h.recorded, h'.recorded]

/-- All paths are made longer by a node, and the node is recorded for all constraints at once, since
each of them is below it. -/
theorem Traced.through (h : Traced ps cs rs) (x : TripleExpr) :
    Traced (ps.map fun p => (x :: p.1, p.2)) cs
      (rs ++ [(x.source, cs.map TripleConstraint.id)]) := by
  refine ⟨by rw [List.map_map]; exact h.constraints, fun p hp => ?_, fun mk id => ?_⟩
  · obtain ⟨p, hmem, rfl⟩ := List.mem_map.1 hp
    obtain ⟨m, hlast, hm⟩ := h.ends p hmem
    exact ⟨m, by rw [List.getLast?_cons, hlast]; rfl, hm⟩
  · have hid : id ∈ cs.map TripleConstraint.id ↔ ∃ p ∈ ps, p.2.id = id := by
      rw [← h.constraints, List.map_map, List.mem_map]
      rfl
    simp only [exists_mem_concat, h.recorded, hid, List.mem_map, exists_exists_and_eq_and,
      List.exists_mem_cons_iff, and_or_left, exists_or]
    rw [or_comm]
    exact or_congr_left ⟨fun ⟨hmk, p, hp, hpid⟩ => ⟨p, hp, hpid, hmk⟩,
      fun ⟨p, hp, hpid, hmk⟩ => ⟨hmk, p, hp, hpid⟩⟩

end

mutual

/-- A constraint stands for the end of a path, and it is recorded for the nodes on the path. -/
theorem Attributes.traced : ∀ {x : TripleExpr} {cs : List TripleConstraint} {rs : List Recording},
    S.Attributes x cs rs → ∃ ps, S.Paths x (ps.map Prod.fst) ∧ Traced ps cs rs
  | _, _, _, .constraint hk => by
    refine ⟨[([_], _)], .constraint, rfl, ?_, fun mk id => ?_⟩
    · simpa using ⟨_, rfl, hk⟩
    · simp [TripleConstraint.id, source, mark, and_comm, eq_comm]
  | x, _, _, .node hops hes => by
    obtain ⟨ps, hps, htraced⟩ := hes.traced
    refine ⟨_, ?_, htraced.through x⟩
    have hpaths := Paths.node hops hps
    rwa [List.map_map] at hpaths ⊢

/-- The same for the operands of a node. -/
theorem AttributesAll.traced : ∀ {es : List TripleExpr} {cs : List TripleConstraint}
    {rs : List Recording}, S.AttributesAll es cs rs →
      ∃ ps, S.PathsOfAll es (ps.map Prod.fst) ∧ Traced ps cs rs
  | _, _, _, .nil => ⟨[], .nil, rfl, by simp, by simp⟩
  | _, _, _, .cons he hes => by
    obtain ⟨ps, hps, htraced⟩ := he.traced
    obtain ⟨ps', hps', htraced'⟩ := hes.traced
    exact ⟨ps ++ ps', by rw [List.map_append]; exact .cons hps hps', htraced.append htraced'⟩

end

end Schema

/-! ### The table -/

/-- A table is made of recordings: it has one entry for each node with semantic actions, in the
order in which the nodes were recorded first. -/
structure Tabulates (rs : List Recording) (as : List Annotated) : Prop where
  nodup : (as.map (·.source.id)).Nodup
  mem_source : ∀ mk, mk ∈ as.map Annotated.source ↔ mk.actions ≠ [] ∧ ∃ r ∈ rs, r.1 = mk
  mem_constraints : ∀ a ∈ as, ∀ id, id ∈ a.constraints ↔ ∃ r ∈ rs, r.1 = a.source ∧ id ∈ r.2
  ordered : AllFollow (fun before mk => ∃ earlier r later, rs = earlier ++ r :: later ∧ r.1 = mk ∧
    ∀ r' ∈ earlier, r'.1.actions ≠ [] → r'.1 ∈ before) (as.map Annotated.source)

/-- Either there is no entry for a node, and one is added, or the entry is extended where it stands.
The table keeps the order of first recordings because entries never move. -/
theorem Annotated.extend_cases (source : Mark) (ids : List ExprId) : ∀ as : List Annotated,
    ((∀ a ∈ as, a.source.id ≠ source.id) ∧ extend source ids as = as ++ [⟨source, ids⟩]) ∨
      ∃ before a after, as = before ++ a :: after ∧ a.source.id = source.id ∧
        extend source ids as = before ++ { a with constraints := ids ++ a.constraints } :: after
  | [] => .inl ⟨by simp, rfl⟩
  | a :: as => by
    rw [extend]
    split
    · rename_i hid
      exact .inr ⟨[], a, as, rfl, hid, rfl⟩
    · rename_i hid
      rcases extend_cases source ids as with ⟨hne, heq⟩ | ⟨before, b, after, rfl, hb, heq⟩
      · exact .inl ⟨List.forall_mem_cons.2 ⟨hid, hne⟩, by rw [heq]; rfl⟩
      · exact .inr ⟨a :: before, b, after, rfl, hb, by rw [heq]; rfl⟩

namespace Tabulates

variable {rs : List Recording} {as before after : List Annotated} {a : Annotated} {r : Recording}

/-- Nothing is recorded, and the table is empty. -/
theorem nil : Tabulates [] [] := ⟨by simp, by simp, by simp, .nil⟩

/-- What is recorded later does not change the order. -/
theorem ordered_concat (h : Tabulates rs as) (r : Recording) :
    AllFollow (fun before mk => ∃ earlier r' later, rs ++ [r] = earlier ++ r' :: later ∧
      r'.1 = mk ∧ ∀ r'' ∈ earlier, r''.1.actions ≠ [] → r''.1 ∈ before)
      (as.map Annotated.source) := by
  refine h.ordered.imp fun before mk ⟨earlier, r', later, hrs, hmk, hearlier⟩ => ?_
  exact ⟨earlier, r', later ++ [r], by rw [hrs]; simp, hmk, hearlier⟩

/-- Nothing is told of a node without semantic actions. -/
theorem skip (h : Tabulates rs as) (hr : r.1.actions = []) : Tabulates (rs ++ [r]) as := by
  have hne : ∀ mk : Mark, mk.actions ≠ [] → r.1 ≠ mk := fun mk hmk heq => hmk (heq ▸ hr)
  refine ⟨h.nodup, fun mk => ?_, fun a ha id => ?_, h.ordered_concat r⟩
  · rw [exists_mem_concat, h.mem_source]
    exact and_congr_right fun hmk => (or_iff_left (hne mk hmk)).symm
  · have hact := ((h.mem_source a.source).1 (List.mem_map_of_mem ha)).1
    rw [exists_mem_concat, h.mem_constraints a ha]
    exact (or_iff_left fun hr => hne _ hact hr.1).symm

/-- A node that is recorded for the first time has the last entry: whatever had an entry before was
recorded earlier. -/
theorem add (h : Tabulates rs as) (hr : r.1.actions ≠ []) (hnew : ∀ a ∈ as, a.source.id ≠ r.1.id) :
    Tabulates (rs ++ [r]) (as ++ [⟨r.1, r.2⟩]) := by
  have hnot : ¬ ∃ r' ∈ rs, r'.1 = r.1 := fun hrs => by
    obtain ⟨a, ha, hsource⟩ := List.mem_map.1 ((h.mem_source r.1).2 ⟨hr, hrs⟩)
    exact hnew a ha (congrArg Mark.id hsource)
  refine ⟨?_, fun mk => ?_, fun a ha id => ?_, ?_⟩
  · rw [List.map_append, List.nodup_append]
    refine ⟨h.nodup, by simp, fun i hi j hj hij => ?_⟩
    obtain ⟨a, ha, rfl⟩ := List.mem_map.1 hi
    rw [List.map_singleton, List.mem_singleton] at hj
    exact hnew a ha (hij.trans hj)
  · rw [exists_mem_concat, List.map_append, List.mem_append, h.mem_source, and_or_left]
    refine or_congr_right ⟨fun hmk => ?_, fun hmk => ?_⟩
    · obtain rfl := List.mem_singleton.1 hmk
      exact ⟨hr, rfl⟩
    · exact List.mem_singleton.2 hmk.2.symm
  · rw [exists_mem_concat]
    rcases List.mem_append.1 ha with ha | ha
    · rw [h.mem_constraints a ha]
      exact (or_iff_left fun hr => hnew a ha (congrArg Mark.id hr.1.symm)).symm
    · cases List.mem_singleton.1 ha
      rw [or_iff_right fun ⟨r', hr', hmk, _⟩ => hnot ⟨r', hr', hmk⟩, and_iff_right rfl]
  · rw [List.map_append]
    refine (h.ordered_concat r).concat ⟨rs, r, [], rfl, rfl, fun r' hr' hact => ?_⟩
    exact (h.mem_source r'.1).2 ⟨hact, r', hr', rfl⟩

/-- A node that has an entry gets more constraints, and the entries of other nodes stay what they
are: two entries are never about one node. -/
theorem extend (h : Tabulates rs (before ++ a :: after)) (ha : a.source = r.1) :
    Tabulates (rs ++ [r]) (before ++ { a with constraints := r.2 ++ a.constraints } :: after) := by
  obtain ⟨r', hr', hsource⟩ := ((h.mem_source a.source).1 (by simp)).2
  have hmap : (before ++ { a with constraints := r.2 ++ a.constraints } :: after).map
      Annotated.source = (before ++ a :: after).map Annotated.source := by simp
  have hnodup := h.nodup
  rw [List.map_append, List.map_cons, List.nodup_middle, List.nodup_cons,
    ← List.map_append] at hnodup
  refine ⟨?_, fun mk => ?_, fun b hb id => ?_, hmap ▸ h.ordered_concat r⟩
  · simpa using h.nodup
  · rw [hmap, h.mem_source, exists_mem_concat]
    refine and_congr_right fun _ => (or_iff_left_of_imp ?_).symm
    rintro rfl
    exact ⟨r', hr', hsource.trans ha⟩
  · rw [exists_mem_concat]
    rcases List.mem_cons.1 (List.perm_middle.mem_iff.1 hb) with rfl | hb
    · rw [List.mem_append, h.mem_constraints a (by simp), or_comm, and_iff_right ha.symm]
    · rw [h.mem_constraints b (List.perm_middle.mem_iff.2 (List.mem_cons_of_mem _ hb))]
      refine (or_iff_left fun hr => hnodup.1 (List.mem_map.2 ⟨b, hb, ?_⟩)).symm
      exact congrArg Mark.id (hr.1.symm.trans ha.symm)

end Tabulates

/-- The table of recordings in which marks with one identity are equal. Entries are looked up by
identity, so without this condition two nodes could share an entry. -/
theorem tabulates_foldl : ∀ {rs : List Recording},
    (∀ r ∈ rs, ∀ r' ∈ rs, r.1.id = r'.1.id → r.1 = r'.1) →
      Tabulates rs (rs.foldl Annotated.tell []) := by
  intro rs
  induction rs using List.reverseRecOn with
  | nil => exact fun _ => .nil
  | append_singleton rs r ih =>
    intro hid
    have h := ih fun r hr r' hr' =>
      hid r (List.mem_append_left _ hr) r' (List.mem_append_left _ hr')
    rw [List.foldl_append, List.foldl_cons, List.foldl_nil, Annotated.tell]
    generalize rs.foldl Annotated.tell [] = as at h
    split
    · rename_i hact
      exact h.skip (List.isEmpty_iff.1 hact)
    · rename_i hact
      rcases Annotated.extend_cases r.1 r.2 as with ⟨hnew, heq⟩ | ⟨before, a, after, rfl, ha, heq⟩
      · rw [heq]
        exact h.add (by simpa using hact) hnew
      · rw [heq]
        refine h.extend ?_
        obtain ⟨r', hr', hsource⟩ := ((h.mem_source a.source).1 (by simp)).2
        rw [← hsource] at ha ⊢
        exact hid r' (List.mem_append_left _ hr') r (by simp) ha

/-! ### Forms -/

namespace TripleExpr

variable {S : Schema} {e : TripleExpr} {f : Form} {limit : Nat} {fresh : ExprId}

/-- In a schema that is written, nodes with the same mark are the same. -/
theorem eq_of_source_id_eq (hS : S.isWritten = true) (he : e.isWritten = true)
    (hapart : S.TellsApart e) {via via' : List Label} {x y : TripleExpr} (hx : S.Inside via e x)
    (hy : S.Inside via' e y) (hid : x.source.id = y.source.id) : x = y := by
  rw [isWritten_source (hx.isWritten hS he), isWritten_source (hy.isWritten hS he)] at hid
  exact hapart via via' x y hx hy hid

/-- The table of a form has one entry for each node with semantic actions that is met in the
expression, references included, and it comes after the entries of the nodes inside that node. The
paths from the expression are those to the constraints of the form, and the constraints in an entry
are those with a path through the node. -/
theorem normalize_attributes (hS : S.isWritten = true) (he : e.isWritten = true)
    (hapart : S.TellsApart e) (h : e.normalize S limit fresh = .ok f) :
    (f.annotated.map (·.source.id)).Nodup ∧
      (∀ mk, (∃ a ∈ f.annotated, a.source = mk) ↔
        mk.actions ≠ [] ∧ ∃ via x, S.Inside via e x ∧ x.source = mk) ∧
      (∀ before a after, f.annotated = before ++ a :: after →
        ∀ via x, S.Inside via e x → x.source = a.source →
          ∀ via' y, S.Inside via' x y → y.source.actions ≠ [] →
            y = x ∨ ∃ b ∈ before, b.source = y.source) ∧
      ∃ ps : List (List TripleExpr × TripleConstraint),
        (∀ qs, S.Paths e qs ↔ qs = ps.map Prod.fst) ∧ ps.map Prod.snd = f.constraints ∧
        (∀ p ∈ ps, p.2.Ends p.1) ∧ ∀ a ∈ f.annotated, ∀ id,
          id ∈ a.constraints ↔ ∃ p ∈ ps, p.2.id = id ∧ ∃ x ∈ p.1, x.source = a.source := by
  obtain ⟨rs, hrs, htold⟩ := normalize_attributed h
  have htable : Tabulates rs f.annotated := by
    rw [htold]
    refine tabulates_foldl fun r hr r' hr' hid => ?_
    obtain ⟨via, x, hx, hsource⟩ := hrs.met.1 ⟨r, hr, rfl⟩
    obtain ⟨via', y, hy, hsource'⟩ := hrs.met.1 ⟨r', hr', rfl⟩
    rw [← hsource, ← hsource'] at hid ⊢
    exact congrArg source (eq_of_source_id_eq hS he hapart hx hy hid)
  obtain ⟨ps, hps, htraced⟩ := hrs.traced
  refine ⟨htable.nodup, fun mk => ?_, fun before a after heq via x hx hsource via' y hy hact => ?_,
    ps, fun qs => ⟨(·.unique hps), fun h => h ▸ hps⟩, htraced.constraints, htraced.ends,
    fun a ha id => ?_⟩
  · rw [← hrs.met, ← htable.mem_source, List.mem_map]
  · obtain ⟨earlier, r, later, hsplit, hr, hearlier⟩ :=
      htable.ordered (before.map Annotated.source) a.source (after.map Annotated.source)
        (by rw [heq, List.map_append, List.map_cons])
    obtain ⟨via₀, x₀, hx₀, hsource₀, hin⟩ := hrs.inner earlier r later hsplit
    obtain rfl : x = x₀ := eq_of_source_id_eq hS he hapart hx hx₀
      (by rw [hsource, hsource₀, hr])
    refine (hin via' y hy).imp_right fun ⟨r', hr', hsource'⟩ => ?_
    rw [← hsource'] at hact ⊢
    exact List.mem_map.1 (hearlier r' hr' hact)
  · rw [htable.mem_constraints a ha, htraced.recorded]

/-! ### Example -/

/-- `$<T> ( q . %C% ; r . )` -/
def pairSchema : Schema :=
  Schema.empty.addTripleExpr (.iri ⟨"T"⟩)
    (.eachOf (.written ⟨⟨4⟩, []⟩)
      [.constraint (.written ⟨⟨5⟩, [⟨⟨"C"⟩, none⟩]⟩) ⟨⟨"q"⟩, false⟩ none,
        .constraint (.written ⟨⟨6⟩, []⟩) ⟨⟨"r"⟩, false⟩ none])

/-- `p . %A% ; ( &<T> %B% ){2}` -/
def twicePair : TripleExpr :=
  .eachOf (.written ⟨⟨0⟩, []⟩)
    [.constraint (.written ⟨⟨1⟩, [⟨⟨"A"⟩, none⟩]⟩) ⟨⟨"p"⟩, false⟩ none,
      .repeated (.written ⟨⟨2⟩, []⟩)
        (.ref (.written ⟨⟨3⟩, [⟨⟨"B"⟩, none⟩]⟩) (.iri ⟨"T"⟩)) (.exactly 2)]

/-- Two copies of `q .` belong to `C`, and the two copies of the group, which is reached by a
reference, to the node of the reference: annotations on references are kept too. -/
theorem twicePair_attributes :
    ∃ f, twicePair.normalize pairSchema 20 ⟨7⟩ = .ok f ∧
      f.annotated.map (fun a => (a.source.id.index, a.constraints.length)) =
        [(1, 1), (5, 2), (3, 4)] ∧
      ∃ ps : List (List TripleExpr × TripleConstraint),
        (∀ qs, pairSchema.Paths twicePair qs ↔ qs = ps.map Prod.fst) ∧
        ps.map Prod.snd = f.constraints ∧
        (∀ p ∈ ps, p.2.Ends p.1) ∧ ∀ a ∈ f.annotated, ∀ id,
          id ∈ a.constraints ↔ ∃ p ∈ ps, p.2.id = id ∧ ∃ x ∈ p.1, x.source = a.source := by
  obtain ⟨f, hf, htable⟩ := @exists_form pairSchema _ twicePair 20 ⟨7⟩
    (·.annotated.map fun a => (a.source.id.index, a.constraints.length)) [(1, 1), (5, 2), (3, 4)]
    (by decide +kernel)
  exact ⟨f, hf, htable, (normalize_attributes (by decide +kernel) (by decide +kernel)
    (Schema.tellsApart_of_nodup (by decide +kernel)) hf).2.2.2⟩

end TripleExpr

end Shex
