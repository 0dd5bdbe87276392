/-!
# Tables

A table maps keys to values and remembers the order in which its keys were first inserted. A key
that is inserted again keeps its place and takes the new value. Schemas, handler tables and memo
tables are all of this kind. The two laws of look-up after insertion are `get?_insert_self` and
`get?_insert_of_ne`; `keys_insert` gives the order.
-/

namespace Shex

universe u v

variable {κ : Type u} {α : Type v} [DecidableEq κ]

namespace Table

/-- Puts `a` at the place of `k`, or at the end if `k` has none. -/
def insertEntry (k : κ) (a : α) : List (κ × α) → List (κ × α)
  | [] => [(k, a)]
  | e :: rest => if e.1 = k then (k, a) :: rest else e :: insertEntry k a rest

/-- The value of the first entry for `k`. -/
def lookupEntry (k : κ) : List (κ × α) → Option α
  | [] => none
  | e :: rest => if e.1 = k then some e.2 else lookupEntry k rest

/-- Insertion adds a key at the end, or adds none if the key is there. This is what keeps the keys
of a table distinct, and what gives them the order of their first insertion. -/
theorem keys_insertEntry (k : κ) (a : α) (es : List (κ × α)) :
    (insertEntry k a es).map Prod.fst =
      if k ∈ es.map Prod.fst then es.map Prod.fst else es.map Prod.fst ++ [k] := by
  induction es with
  | nil => simp [insertEntry]
  | cons e rest ih =>
    by_cases h : e.1 = k
    · simp [insertEntry, h]
    · have hk : ¬ k = e.1 := fun he => h he.symm
      simp only [insertEntry, h, if_false, List.map_cons, ih, List.mem_cons, hk, false_or]
      split <;> simp

/-- The first law of look-up, for entries: what was put in is found. No assumption on the keys is
needed, as the first entry of a key is the one that is found and replaced. -/
theorem lookupEntry_insertEntry_self (k : κ) (a : α) (es : List (κ × α)) :
    lookupEntry k (insertEntry k a es) = some a := by
  induction es with
  | nil => simp [insertEntry, lookupEntry]
  | cons e rest ih =>
    by_cases h : e.1 = k
    · simp [insertEntry, h, lookupEntry]
    · simp [insertEntry, h, lookupEntry, ih]

/-- The second law of look-up, for entries: the values of other keys stay as they are. -/
theorem lookupEntry_insertEntry_of_ne {k k' : κ} (hne : k ≠ k') (a : α) (es : List (κ × α)) :
    lookupEntry k' (insertEntry k a es) = lookupEntry k' es := by
  induction es with
  | nil => simp [insertEntry, lookupEntry, hne]
  | cons e rest ih =>
    by_cases h : e.1 = k
    · simp [insertEntry, h, lookupEntry, hne]
    · simp [insertEntry, h, lookupEntry, ih]

/-- A value is found exactly for the keys of the entries. -/
theorem lookupEntry_isSome_iff (k : κ) (es : List (κ × α)) :
    (lookupEntry k es).isSome ↔ k ∈ es.map Prod.fst := by
  induction es with
  | nil => simp [lookupEntry]
  | cons e rest ih =>
    by_cases h : e.1 = k
    · simp [lookupEntry, h]
    · have hk : ¬ k = e.1 := fun he => h he.symm
      simp [lookupEntry, h, ih, hk]

/-- Where no key occurs twice, looking a key up finds the value of its only entry, so that look-up
and membership come to the same. -/
theorem lookupEntry_eq_some_iff {k : κ} {a : α} {es : List (κ × α)}
    (h : (es.map Prod.fst).Nodup) : lookupEntry k es = some a ↔ (k, a) ∈ es := by
  induction es with
  | nil => simp [lookupEntry]
  | cons e rest ih =>
    rw [List.map_cons, List.nodup_cons] at h
    by_cases hk : e.1 = k
    · subst hk
      have hrest : (e.1, a) ∉ rest := fun hmem => h.1 (List.mem_map.2 ⟨_, hmem, rfl⟩)
      simp [lookupEntry, hrest, Prod.ext_iff, eq_comm]
    · have hne : (k, a) ≠ e := fun he => hk (by rw [← he])
      simp [lookupEntry, hk, ih h.2, hne]

end Table

/-- A finite map with its keys in order of first insertion, each key once. -/
structure Table (κ : Type u) (α : Type v) [DecidableEq κ] where
  entries : List (κ × α)
  keys_nodup : (entries.map Prod.fst).Nodup

namespace Table

/-- The table without entries. -/
def empty : Table κ α := ⟨[], by simp⟩

instance : Inhabited (Table κ α) := ⟨empty⟩

/-- The keys, in order of first insertion. -/
def keys (t : Table κ α) : List κ := t.entries.map Prod.fst

/-- The values, in the order of their keys. -/
def values (t : Table κ α) : List α := t.entries.map Prod.snd

/-- The number of keys. -/
def size (t : Table κ α) : Nat := t.entries.length

/-- Whether there is no key. -/
def isEmpty (t : Table κ α) : Bool := t.entries.isEmpty

/-- The value of a key. -/
def get? (t : Table κ α) (k : κ) : Option α := lookupEntry k t.entries

/-- Whether the table has a key. -/
def contains (t : Table κ α) (k : κ) : Bool := (t.get? k).isSome

/-- Gives a key a value: in its place if the table has the key, at the end otherwise. -/
def insert (t : Table κ α) (k : κ) (a : α) : Table κ α where
  entries := insertEntry k a t.entries
  keys_nodup := by
    rw [keys_insertEntry]
    split
    · exact t.keys_nodup
    · rename_i h
      rw [List.nodup_append]
      refine ⟨t.keys_nodup, by simp, fun x hx y hy => ?_⟩
      rw [List.mem_singleton.1 hy]
      exact fun e => h (e ▸ hx)

/-- The value that was put in last is found. -/
@[simp] theorem get?_insert_self (t : Table κ α) (k : κ) (a : α) : (t.insert k a).get? k = some a :=
  lookupEntry_insertEntry_self k a t.entries

/-- The values of other keys are found as before. -/
theorem get?_insert_of_ne (t : Table κ α) {k k' : κ} (h : k ≠ k') (a : α) :
    (t.insert k a).get? k' = t.get? k' :=
  lookupEntry_insertEntry_of_ne h a t.entries

/-- A key that is new comes last, and one that is not keeps its place. -/
theorem keys_insert (t : Table κ α) (k : κ) (a : α) :
    (t.insert k a).keys = if k ∈ t.keys then t.keys else t.keys ++ [k] :=
  keys_insertEntry k a t.entries

/-- The keys after an insertion, without their order. -/
theorem mem_keys_insert (t : Table κ α) {k k' : κ} {a : α} :
    k' ∈ (t.insert k a).keys ↔ k' ∈ t.keys ∨ k' = k := by
  rw [keys_insert]
  by_cases h : k ∈ t.keys
  · rw [if_pos h]
    exact ⟨.inl, fun h' => h'.elim id fun h' => h' ▸ h⟩
  · rw [if_neg h, List.mem_append, List.mem_singleton]

/-- The entries are the keys with their values. Look-up finds the first entry for a key, and there
is no other since the keys of a table are distinct. -/
theorem get?_eq_some_iff (t : Table κ α) {k : κ} {a : α} :
    t.get? k = some a ↔ (k, a) ∈ t.entries :=
  lookupEntry_eq_some_iff t.keys_nodup

/-- A table has a value for each of its keys and for nothing else. -/
theorem get?_isSome_iff (t : Table κ α) (k : κ) : (t.get? k).isSome ↔ k ∈ t.keys :=
  lookupEntry_isSome_iff k t.entries

end Table

end Shex
