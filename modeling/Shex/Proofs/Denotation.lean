import Shex.Proofs.Language
import Shex.Schema

/-!
# What a triple expression denotes

The declarative meaning of triple expressions with references: `s.Denotes atom e M` says that `M` is
a bag that `e` stands for, where a reference stands for what it refers to in the schema `s`. It is
defined by the ways in which a bag can be taken apart. The function `TripleExpr.language` computes
the same sets from the sets of the labels (`Schema.mem_language_iff`).
-/

open scoped Pointwise

namespace Shex

variable {α : Type}

mutual

/-- The bags that an expression denotes, where `atom` says what triple constraints denote. -/
inductive Schema.Denotes (s : Schema) (atom : AtomLanguage α) : TripleExpr → Multiset α → Prop
  /-- The bag is divided among all operands. -/
  | eachOf {m : TripleMark} {es : List TripleExpr} {M : Multiset α} :
    DenotesAll s atom es M → Denotes s atom (.eachOf m es) M
  /-- The bag is one of some operand. -/
  | oneOf {m : TripleMark} {es : List TripleExpr} {e : TripleExpr} {M : Multiset α} :
    e ∈ es → Denotes s atom e M → Denotes s atom (.oneOf m es) M
  /-- The bag is divided into as many parts as the cardinality admits. -/
  | repeated {m : TripleMark} {e : TripleExpr} {c : Cardinality} {k : Nat} {M : Multiset α} :
    c.Has k → DenotesTimes s atom e k M → Denotes s atom (.repeated m e c) M
  | constraint {m : TripleMark} {a : Arc} {v : Option ShapeExpr} {M : Multiset α} :
    M ∈ atom m a v → Denotes s atom (.constraint m a v) M
  /-- The bag is one of the expression that is referred to. -/
  | ref {m : TripleMark} {l : Label} {e : TripleExpr} {M : Multiset α} :
    s.tripleExpr? l = some e → Denotes s atom e M → Denotes s atom (.ref m l) M
  | empty {m : TripleMark} : Denotes s atom (.empty m) 0

/-- The bags that are divided among all expressions of a list. -/
inductive Schema.DenotesAll (s : Schema) (atom : AtomLanguage α) :
    List TripleExpr → Multiset α → Prop
  | nil : DenotesAll s atom [] 0
  | cons {e : TripleExpr} {es : List TripleExpr} {M N : Multiset α} :
    Denotes s atom e M → DenotesAll s atom es N → DenotesAll s atom (e :: es) (M + N)

/-- The bags that are divided into a number of parts that an expression denotes. -/
inductive Schema.DenotesTimes (s : Schema) (atom : AtomLanguage α) :
    TripleExpr → Nat → Multiset α → Prop
  | zero {e : TripleExpr} : DenotesTimes s atom e 0 0
  | succ {e : TripleExpr} {k : Nat} {M N : Multiset α} :
    Denotes s atom e M → DenotesTimes s atom e k N → DenotesTimes s atom e (k + 1) (M + N)

end

namespace Schema

open TripleExpr

variable {s : Schema} {atom : AtomLanguage α}

/-- The bags that the expression declared under a label denotes. -/
def labelLanguage (s : Schema) (atom : AtomLanguage α) (l : Label) : BagLanguage α :=
  {M | ∃ e, s.tripleExpr? l = some e ∧ s.Denotes atom e M}

/-- One half of the repetition: bags that the rules split into `k` bags of the expression are in the
`k`-fold sum of any language that has all bags of the expression. The recursion is on `k`. -/
theorem mem_times_of_denotesTimes {e : TripleExpr} {L : BagLanguage α}
    (h : ∀ M, s.Denotes atom e M → M ∈ L) :
    ∀ {k : Nat} {M : Multiset α}, s.DenotesTimes atom e k M → M ∈ L.times k
  | _, _, .zero => rfl
  | _, _, .succ hM hN => Set.add_mem_add (h _ hM) (mem_times_of_denotesTimes h hN)

/-- The other half of the repetition: a bag of the `k`-fold sum is split by the rules, if every bag
of the language is one of the expression. -/
theorem denotesTimes_of_mem_times {e : TripleExpr} {L : BagLanguage α}
    (h : ∀ M ∈ L, s.Denotes atom e M) :
    ∀ {k : Nat} {M : Multiset α}, M ∈ L.times k → s.DenotesTimes atom e k M
  | 0, _, rfl => .zero
  | k + 1, _, hM => by
    obtain ⟨A, hA, B, hB, rfl⟩ := Set.mem_add.1 hM
    exact .succ (h A hA) (denotesTimes_of_mem_times h hB)

mutual

/-- The language that is computed from what labels denote is what the expression denotes. The rules
are recursive through references, and the computed language reads a label once: both say the same,
case by case. -/
theorem mem_language_iff :
    ∀ {e : TripleExpr} {M : Multiset α},
      M ∈ e.language atom (s.labelLanguage atom) ↔ s.Denotes atom e M
  | .eachOf m es, M => by
    rw [language_eachOf, mem_languageOfAll_iff]
    exact ⟨.eachOf, fun h => by cases h with | eachOf h => exact h⟩
  | .oneOf m es, M => by
    rw [language_oneOf, mem_languageOfAny_iff]
    exact ⟨fun ⟨_, he, h⟩ => .oneOf he h, fun h => by cases h with | oneOf he h => exact ⟨_, he, h⟩⟩
  | .repeated m e c, M => by
    rw [language_repeated]
    constructor
    · rintro ⟨k, hk, hM⟩
      exact .repeated hk (denotesTimes_of_mem_times (fun M hM => mem_language_iff.1 hM) hM)
    · intro h
      cases h with
      | repeated hk h =>
        exact ⟨_, hk, mem_times_of_denotesTimes (fun M hM => mem_language_iff.2 hM) h⟩
  | .constraint m a v, M => by
    rw [language_constraint]
    exact ⟨.constraint, fun h => by cases h with | constraint h => exact h⟩
  | .ref m l, M => by
    rw [language_ref]
    exact ⟨fun ⟨_, hl, h⟩ => .ref hl h, fun h => by cases h with | ref hl h => exact ⟨_, hl, h⟩⟩
  | .empty m, M => by
    rw [language_empty, Set.mem_zero]
    constructor
    · rintro rfl
      exact .empty
    · intro h
      cases h
      rfl

/-- The parts of a conjunction of groups: sums of bags of all parts are what the rules allow. Mutual
with the expressions, along the list. -/
theorem mem_languageOfAll_iff :
    ∀ {es : List TripleExpr} {M : Multiset α},
      M ∈ languageOfAll atom (s.labelLanguage atom) es ↔ s.DenotesAll atom es M
  | [], M => by
    rw [languageOfAll, Set.mem_zero]
    constructor
    · rintro rfl
      exact .nil
    · intro h
      cases h
      rfl
  | e :: es, M => by
    rw [languageOfAll, Set.mem_add]
    constructor
    · rintro ⟨A, hA, B, hB, rfl⟩
      exact .cons (mem_language_iff.1 hA) (mem_languageOfAll_iff.1 hB)
    · intro h
      cases h with
      | cons hA hB => exact ⟨_, mem_language_iff.2 hA, _, mem_languageOfAll_iff.2 hB, rfl⟩

/-- The parts of a choice: the union of the languages is what the rules allow for one of the parts.
Mutual with the expressions, along the list. -/
theorem mem_languageOfAny_iff :
    ∀ {es : List TripleExpr} {M : Multiset α},
      M ∈ languageOfAny atom (s.labelLanguage atom) es ↔ ∃ e ∈ es, s.Denotes atom e M
  | [], M => by simp [languageOfAny]
  | e :: es, M => by
    rw [languageOfAny, Set.mem_union, mem_language_iff, mem_languageOfAny_iff]
    simp

end

/-- A label denotes what the expression declared under it denotes. -/
theorem labelLanguage_eq {l : Label} {e : TripleExpr} (hl : s.tripleExpr? l = some e) :
    s.labelLanguage atom l = e.language atom (s.labelLanguage atom) := by
  ext M
  rw [mem_language_iff]
  constructor
  · rintro ⟨e', hl', h⟩
    cases hl.symm.trans hl'
    exact h
  · exact fun h => ⟨e, hl, h⟩

end Schema

end Shex
