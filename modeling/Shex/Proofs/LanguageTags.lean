import Mathlib.Data.List.Infix
import Shex.NodeConstraint.Values

/-!
# Language tags

A language tag is read as the list of its parts, and a stem matches where the parts of the stem are
the first parts of the tag (`startsWithTag_iff_subtags`). Characters are compared up to ASCII case,
and no text is excluded: it may be empty, hold any characters, or begin, end or go on with hyphens.

The same is found out on the bytes of the texts (`bytesHaveStem`), by cutting the tag where the
bytes of the stem would end. That is right because a change of ASCII case changes no bytes but those
of ASCII letters (`map_lowerByte_utf8EncodeChar`), and because no encoded character begins another
(`bytes_prefix_iff`), so that the place where the tag is cut is one between two characters.
-/

namespace Shex

/-! ### Parts of a tag -/

/-- An upper-case letter moves to the lower-case one. The code points are given, since the cases
below compare them with those of other characters. -/
theorem toLower_of_upper {c : Char} (h : c.val ≥ 'A'.val ∧ c.val ≤ 'Z'.val) :
    c.toLower.val = c.val + ('a'.val - 'A'.val) := congrArg Char.val (dif_pos h)

/-- Any other character stays. -/
theorem toLower_of_not_upper {c : Char} (h : ¬ (c.val ≥ 'A'.val ∧ c.val ≤ 'Z'.val)) :
    c.toLower = c := dif_neg h

/-- Only a hyphen becomes a hyphen, so parts are the same before and after the change of case: a tag
may be compared first and split afterwards. -/
theorem toLower_eq_hyphen {c : Char} : c.toLower = '-' ↔ c = '-' := by
  constructor
  · intro h
    by_cases hc : c.val ≥ 'A'.val ∧ c.val ≤ 'Z'.val
    · -- a lower-case letter is no hyphen
      have hval := toLower_of_upper hc
      rw [h] at hval
      have hge : 65 ≤ c.val.toNat := hc.1
      have hle : c.val.toNat ≤ 90 := hc.2
      have := congrArg UInt32.toNat hval
      rw [UInt32.toNat_add] at this
      have h32 : ('a'.val - 'A'.val).toNat = 32 := rfl
      have h45 : '-'.val.toNat = 45 := rfl
      omega
    · exact (toLower_of_not_upper hc).symm.trans h
  · rintro rfl
    rfl

/-- The parts of a text between hyphens, with ASCII letters in lower case. -/
def partsOf (cs : List Char) : List (List Char) := (cs.splitOn '-').map (·.map Char.toLower)

/-- The subtags of a tag, with ASCII letters in lower case. -/
def subtags (tag : String) : List (List Char) := partsOf tag.toList

/-- The empty text has one part, the empty one. -/
@[simp] theorem partsOf_nil : partsOf [] = [[]] := by rw [partsOf, List.splitOn_nil]; rfl

/-- There is always a first part. -/
theorem partsOf_ne_nil (cs : List Char) : partsOf cs ≠ [] := by
  rw [partsOf, ne_eq, List.map_eq_nil_iff]
  exact List.splitOn_ne_nil '-' cs

/-- The first part and the others, as the inductions along a text name them. -/
theorem exists_partsOf_eq (cs : List Char) : ∃ p ps, partsOf cs = p :: ps :=
  List.exists_cons_of_ne_nil (partsOf_ne_nil cs)

/-- A hyphen in front begins with an empty part. -/
@[simp] theorem partsOf_hyphen (cs : List Char) : partsOf ('-' :: cs) = [] :: partsOf cs := by
  rw [partsOf, List.splitOn_cons_eq_if_modifyHead, if_pos (beq_self_eq_true _)]
  rfl

/-- Any other character in front belongs to the first part. With the last lemma these are the
equations of an induction along the text, in which the splitting itself is not opened. -/
theorem partsOf_cons {c : Char} (hc : c ≠ '-') {cs p : List Char} {ps : List (List Char)}
    (h : partsOf cs = p :: ps) : partsOf (c :: cs) = (c.toLower :: p) :: ps := by
  rw [partsOf] at h ⊢
  rw [List.splitOn_cons_eq_if_modifyHead, if_neg (by simpa using hc)]
  obtain ⟨q, qs, hq⟩ := List.exists_cons_of_ne_nil (List.splitOn_ne_nil '-' cs)
  rw [hq, List.map_cons, List.cons.injEq] at h
  rw [hq, List.modifyHead_cons, List.map_cons, List.map_cons, h.1, h.2]

/-- The first part is empty where a text is over or a hyphen comes. -/
theorem nil_prefix_partsOf_iff (cs : List Char) :
    [[]] <+: partsOf cs ↔ cs = [] ∨ cs.head? = some '-' := by
  cases cs with
  | nil => simp
  | cons c cs =>
    by_cases hc : c = '-'
    · subst hc
      simp
    · obtain ⟨p, ps, h⟩ := exists_partsOf_eq cs
      simp [partsOf_cons hc h, hc]

/-- A text begins with a stem iff the parts of the stem are the first parts of the text. The
comparison goes through both at once and asks for a hyphen or the end at last, so no part of the
text goes on where the stem ends. -/
theorem startsWithTag_iff_subtags (tag stem : List Char) :
    startsWithTag tag stem = true ↔ partsOf stem <+: partsOf tag := by
  induction tag, stem using startsWithTag.induct with
  | case1 tag => simp [startsWithTag, nil_prefix_partsOf_iff]
  | case2 a as b bs ih =>
    rw [startsWithTag, Bool.and_eq_true, ih, sameLetter, decide_eq_true_eq]
    obtain ⟨p, ps, hp⟩ := exists_partsOf_eq as
    obtain ⟨q, qs, hq⟩ := exists_partsOf_eq bs
    -- a hyphen ends a part, on both sides at once
    by_cases ha : a = '-' <;> by_cases hb : b = '-'
    · subst ha hb
      simp
    · subst ha
      have : ¬ '-' = b.toLower := fun h => hb (toLower_eq_hyphen.mp h.symm)
      simp [partsOf_cons hb hq, this]
    · subst hb
      have : ¬ a.toLower = '-' := fun h => ha (toLower_eq_hyphen.mp h)
      simp [partsOf_cons ha hp, this]
    · rw [partsOf_cons ha hp, partsOf_cons hb hq, hp, hq, List.cons_prefix_cons,
        List.cons_prefix_cons, List.cons.injEq, and_assoc, eq_comm (a := a.toLower)]
  | case3 b bs =>
    rw [startsWithTag, partsOf_nil]
    obtain ⟨q, qs, hq⟩ := exists_partsOf_eq bs
    by_cases hb : b = '-'
    · subst hb
      simp [hq]
    · simp [partsOf_cons hb hq]

/-! ### Bytes of a tag -/

/-- The bytes of a text. -/
def bytesOf (cs : List Char) : List UInt8 := cs.flatMap String.utf8EncodeChar

/-- A byte in lower case, if it is that of an ASCII letter. -/
def lowerByte (b : UInt8) : UInt8 := if 65 ≤ b ∧ b ≤ 90 then b + 32 else b

/-- Whether a byte goes on with a character that an earlier one began. -/
def continuesChar (b : UInt8) : Bool := b &&& 0xC0 = 0x80

/-- Whether the bytes of a tag have those of a stem at their start, up to ASCII case, and then end
or go on with a hyphen. A tag that cannot be cut where the stem would end does not have it. -/
def bytesHaveStem (tag stem : List UInt8) : Bool :=
  let rest := tag.drop stem.length
  if stem.isEmpty then true
  else if tag.length < stem.length || rest.head?.any continuesChar then false
  else (tag.take stem.length).map lowerByte = stem.map lowerByte &&
    (rest.isEmpty || rest.head? = some 0x2D)

/-- No characters, no bytes. -/
@[simp] theorem bytesOf_nil : bytesOf [] = [] := rfl

/-- The bytes of the first character come first. -/
@[simp] theorem bytesOf_cons (c : Char) (cs : List Char) :
    bytesOf (c :: cs) = String.utf8EncodeChar c ++ bytesOf cs := List.flatMap_cons ..

/-- The bytes of two texts in a row. -/
theorem bytesOf_append (cs ds : List Char) : bytesOf (cs ++ ds) = bytesOf cs ++ bytesOf ds :=
  List.flatMap_append ..

/-- A byte outside ASCII is left alone. Every byte of a character of several bytes is one. -/
theorem lowerByte_of_le {n : Nat} (h : 128 ≤ n) (h' : n < 256) :
    lowerByte (UInt8.ofNat n) = UInt8.ofNat n := by
  rw [lowerByte, if_neg]
  rintro ⟨-, hle⟩
  have : (UInt8.ofNat n).toNat ≤ 90 := hle
  rw [UInt8.toNat_ofNat_of_lt' h'] at this
  omega

/-- An ASCII letter is one byte, and no byte of another character is that of a letter. The first is
checked for all 128 of them, the second for two, three and four bytes. -/
theorem map_lowerByte_utf8EncodeChar (c : Char) :
    (String.utf8EncodeChar c).map lowerByte = String.utf8EncodeChar c.toLower := by
  by_cases hc : c.toNat < 128
  · have hall : ∀ n : Fin 128, (String.utf8EncodeChar (Char.ofNat n)).map lowerByte =
        String.utf8EncodeChar (Char.ofNat n).toLower := by decide
    simpa using hall ⟨c.toNat, hc⟩
  · have hupper : ¬ (c.val ≥ 'A'.val ∧ c.val ≤ 'Z'.val) := by
      rintro ⟨-, hle⟩
      exact hc (Nat.lt_of_le_of_lt hle (by decide))
    rw [toLower_of_not_upper hupper]
    have hv : ¬ c.val.toNat ≤ 127 := fun h => hc (Nat.lt_succ_of_le h)
    have hlt : c.val.toNat < 0x110000 := by
      rcases c.valid with h | h
      · exact Nat.lt_trans h (by decide)
      · exact h.2
    simp only [String.utf8EncodeChar, if_neg hv]
    split
    · simp only [List.map_cons, List.map_nil]
      rw [lowerByte_of_le (by omega) (by omega), lowerByte_of_le (by omega) (by omega)]
    split
    · simp only [List.map_cons, List.map_nil]
      rw [lowerByte_of_le (by omega) (by omega), lowerByte_of_le (by omega) (by omega),
        lowerByte_of_le (by omega) (by omega)]
    · simp only [List.map_cons, List.map_nil]
      rw [lowerByte_of_le (by omega) (by omega), lowerByte_of_le (by omega) (by omega),
        lowerByte_of_le (by omega) (by omega), lowerByte_of_le (by omega) (by omega)]

/-- Changing the case of the bytes is changing the case of the characters. -/
theorem map_lowerByte_bytesOf (cs : List Char) :
    (bytesOf cs).map lowerByte = bytesOf (cs.map Char.toLower) := by
  induction cs with
  | nil => rfl
  | cons c cs ih => rw [bytesOf_cons, List.map_append, map_lowerByte_utf8EncodeChar, ih]; rfl

/-- The character that bytes begin with is determined by them. -/
theorem eq_of_utf8EncodeChar_append {c d : Char} {xs ys : List UInt8}
    (h : String.utf8EncodeChar c ++ xs = String.utf8EncodeChar d ++ ys) : c = d := by
  have hbytes := congrArg List.toByteArray h
  rw [List.toByteArray_append, List.toByteArray_append] at hbytes
  have hdecode := congrArg (·.utf8DecodeChar? 0) hbytes
  simpa [ByteArray.utf8DecodeChar?_utf8EncodeChar_append] using hdecode

/-- The bytes of a text begin with those of another iff the text begins with the other: no character
is encoded by the beginning of another one. -/
theorem bytes_prefix_iff {cs ds : List Char} : bytesOf cs <+: bytesOf ds ↔ cs <+: ds := by
  constructor
  · intro h
    induction cs generalizing ds with
    | nil => exact List.nil_prefix
    | cons c cs ih =>
      obtain ⟨rest, hrest⟩ := h
      cases ds with
      | nil => simp at hrest
      | cons d ds =>
        rw [bytesOf_cons, bytesOf_cons, List.append_assoc] at hrest
        obtain rfl := eq_of_utf8EncodeChar_append hrest
        exact List.cons_prefix_cons.mpr ⟨rfl, ih ⟨rest, List.append_cancel_left hrest⟩⟩
  · rintro ⟨rest, rfl⟩
    exact ⟨bytesOf rest, (bytesOf_append cs rest).symm⟩

/-- The change of case keeps the number of bytes, so the place of the cut does not depend on it. -/
theorem length_bytesOf_map_toLower (cs : List Char) :
    (bytesOf (cs.map Char.toLower)).length = (bytesOf cs).length := by
  rw [← map_lowerByte_bytesOf, List.length_map]

/-- Only the empty text has no bytes. -/
theorem bytesOf_eq_nil {cs : List Char} : bytesOf cs = [] ↔ cs = [] := by
  cases cs <;> simp

/-- A text begins with a hyphen if its bytes begin with that of a hyphen, since the first character
is determined by the bytes. -/
theorem head?_bytesOf_eq_hyphen {cs : List Char} :
    (bytesOf cs).head? = some 0x2D ↔ cs.head? = some '-' := by
  cases cs with
  | nil => simp
  | cons c cs =>
    rw [bytesOf_cons, List.head?_cons, Option.some.injEq]
    constructor
    · intro h
      obtain ⟨bs, hbs⟩ := List.head?_eq_some_iff.mp h
      have : String.utf8EncodeChar c ++ bytesOf cs = String.utf8EncodeChar '-' ++ bs := hbs
      exact eq_of_utf8EncodeChar_append this
    · rintro rfl
      rfl

/-- A text begins with a stem iff its characters do up to case, and it ends there or a hyphen
follows. -/
theorem startsWithTag_iff_map (tag stem : List Char) : startsWithTag tag stem = true ↔
    stem.map Char.toLower <+: tag.map Char.toLower ∧
      (tag.drop stem.length = [] ∨ (tag.drop stem.length).head? = some '-') := by
  induction tag, stem using startsWithTag.induct with
  | case1 tag => simp [startsWithTag]
  | case2 a as b bs ih =>
    rw [startsWithTag, Bool.and_eq_true, ih, sameLetter, decide_eq_true_eq, List.map_cons,
      List.map_cons, List.cons_prefix_cons, List.length_cons, List.drop_succ_cons, and_assoc,
      eq_comm (a := a.toLower)]
  | case3 b bs => simp [startsWithTag]

/-- The byte of a hyphen begins a character. -/
theorem continuesChar_hyphen : continuesChar 0x2D = false := by decide

/-- The cut is guarded for the sake of the cut only: a hyphen does not go on with a character, so
the guard refuses nothing that the rest of the test would accept. -/
theorem bytesHaveStem_eq_true_iff {tag stem : List UInt8} : bytesHaveStem tag stem = true ↔
    stem = [] ∨ stem.map lowerByte <+: tag.map lowerByte ∧
      (tag.drop stem.length = [] ∨ (tag.drop stem.length).head? = some 0x2D) := by
  have hbegins : stem.map lowerByte <+: tag.map lowerByte ↔
      stem.length ≤ tag.length ∧ (tag.take stem.length).map lowerByte = stem.map lowerByte := by
    rw [List.prefix_iff_eq_take, List.length_map, ← List.map_take, eq_comm]
    refine ⟨fun h => ⟨?_, h⟩, And.right⟩
    have := congrArg List.length h
    rw [List.length_map, List.length_map, List.length_take] at this
    omega
  rw [hbegins, bytesHaveStem]
  split
  case isTrue h => simp [List.isEmpty_iff.mp h]
  case isFalse h =>
    have hne : stem ≠ [] := fun hnil => h (List.isEmpty_iff.mpr hnil)
    split
    case isTrue hcut =>
      rw [Bool.or_eq_true, decide_eq_true_eq, Option.any_eq_true] at hcut
      refine ⟨nofun, ?_⟩
      rintro (hnil | ⟨⟨hlen, -⟩, hrest⟩)
      · exact absurd hnil hne
      · rcases hcut with hlt | ⟨b, hb, hcont⟩
        · omega
        · rcases hrest with hrest | hrest
          · simp [hrest] at hb
          · obtain rfl := Option.some.inj (hrest.symm.trans hb)
            simp [continuesChar_hyphen] at hcont
    case isFalse hcut =>
      simp only [Bool.or_eq_true, decide_eq_true_eq, not_or, Nat.not_lt] at hcut
      simp [hne, hcut.1]

/-- What is found out on the bytes is what is found out on the characters. Case is changed byte by
byte, a prefix of bytes is a prefix of characters, and the byte behind it is a hyphen if the
character is one. -/
theorem bytesHaveStem_eq (tag stem : String) :
    bytesHaveStem (bytesOf tag.toList) (bytesOf stem.toList) = languageHasStem tag stem := by
  rw [Bool.eq_iff_iff, bytesHaveStem_eq_true_iff, languageHasStem, Bool.or_eq_true,
    startsWithTag_iff_map, bytesOf_eq_nil, map_lowerByte_bytesOf, map_lowerByte_bytesOf,
    bytes_prefix_iff]
  refine or_congr (by simp) (and_congr_right fun hbegins => ?_)
  -- the tag is cut between two characters, as many of them as the stem has
  have hdrop : (bytesOf tag.toList).drop (bytesOf stem.toList).length =
      bytesOf (tag.toList.drop stem.toList.length) := by
    have htake : (tag.toList.take stem.toList.length).map Char.toLower =
        stem.toList.map Char.toLower := by
      have htake := List.prefix_iff_eq_take.mp hbegins
      rw [List.length_map] at htake
      rw [List.map_take, ← htake]
    have hlen : (bytesOf (tag.toList.take stem.toList.length)).length =
        (bytesOf stem.toList).length := by
      rw [← length_bytesOf_map_toLower, htake, length_bytesOf_map_toLower]
    conv => lhs; rw [← List.take_append_drop stem.toList.length tag.toList, bytesOf_append]
    exact List.drop_left' hlen
  rw [hdrop, bytesOf_eq_nil, head?_bytesOf_eq_hyphen]

/-! ### Stems of tags and of terms -/

namespace ValueSetValue

/-- No exclusion applies if none of them accepts the term. -/
theorem anyAccepts_eq_false_iff {t : Term} {vs : List ValueSetValue} :
    anyAccepts t vs = false ↔ ∀ v ∈ vs, accepts t v = false := by
  induction vs with
  | nil => simp [anyAccepts]
  | cons v vs ih => rw [anyAccepts, Bool.or_eq_false_iff, ih, List.forall_mem_cons]

/-- A stem range accepts the terms that begin with the stem and that no exclusion accepts. -/
theorem accepts_stem_iff {t : Term} {k : StemKind} {stem : String}
    {exclusions : List ValueSetValue} : accepts t (.stem k stem exclusions) = true ↔
      k.admits stem t = true ∧ ∀ v ∈ exclusions, accepts t v = false := by
  rw [accepts, Bool.and_eq_true, Bool.not_eq_true', anyAccepts_eq_false_iff]

end ValueSetValue

/-- A language stem admits literals with a tag only, and of these the ones whose tag has the
stem. -/
theorem StemKind.language_admits_iff {stem : String} {t : Term} :
    StemKind.language.admits stem t = true ↔ ∃ l tag, t = .literal l ∧ l.language? = some tag ∧
      languageHasStem tag stem = true := by
  cases t with
  | resource r => cases r <;> simp [admits]
  | literal l => simp [admits, Option.any_eq_true]

/-- A tag has a stem iff the stem is empty or the parts of the stem are the first parts of the tag,
up to ASCII case, and that is what a comparison of the bytes finds out. A range of tags accepts the
literals whose tag has the stem of the range, except those that one of its exclusions accepts,
whatever the exclusions are. -/
theorem languageStems_exact (stem : String) :
    (∀ tag, (languageHasStem tag stem = true ↔ stem = "" ∨ subtags stem <+: subtags tag) ∧
      bytesHaveStem (bytesOf tag.toList) (bytesOf stem.toList) = languageHasStem tag stem) ∧
    ∀ (t : Term) (exclusions : List ValueSetValue),
      ValueSetValue.accepts t (.stem .language stem exclusions) = true ↔
        (∃ l tag, t = .literal l ∧ l.language? = some tag ∧ languageHasStem tag stem = true) ∧
        ∀ v ∈ exclusions, ValueSetValue.accepts t v = false := by
  refine ⟨fun tag => ⟨?_, bytesHaveStem_eq tag stem⟩, fun t exclusions => ?_⟩
  · rw [languageHasStem, Bool.or_eq_true, startsWithTag_iff_subtags, String.isEmpty_iff]
    rfl
  · rw [ValueSetValue.accepts_stem_iff, StemKind.language_admits_iff]

example : subtags "de-" = [['d', 'e'], []] := by decide

example : languageHasStem "en-GB" "EN" = true ∧ languageHasStem "eng" "en" = false ∧
    languageHasStem "en--x" "en-" = true ∧ languageHasStem "en-x" "en-" = false := by decide

end Shex
