import DebugCatalog.KeyedList
import Mathlib.Data.List.Nodup

/-!
# Keyed lists whose index is right

A keyed list is two things that must say the same: its entries in order, and an
index from keys to positions.  `KeyedList.Sound` says that the index is exactly
the inverse of the list.  The empty list is sound, and `push` keeps a list sound
if the key is new.

In a sound list keys are distinct (`Sound.nodup`), and looking up a key finds the
one entry that has it (`Sound.find?_eq_some_iff`), at the position of the key among
all keys (`Sound.find?_eq_idxOf?`).
-/

namespace DebugCatalog

variable {α κ : Type} [BEq κ] [Hashable κ] {key : α → κ}

namespace KeyedList

/-- The index gives the position of the entry with each key and nothing else. -/
def Sound (l : KeyedList key) : Prop :=
  ∀ k i, l.index[k]? = some i ↔ ∃ a, l.toList[i]? = some a ∧ key a = k

theorem sound_empty : (empty : KeyedList key).Sound := by
  intro k i
  simp [empty, toList]

namespace Sound

variable {l : KeyedList key}

/-- Keys are distinct, since the index has one position for each. -/
theorem nodup (h : l.Sound) : (l.toList.map key).Nodup := by
  rw [List.nodup_iff_getElem?_ne_getElem?]
  intro i j hij hj heq
  rw [List.length_map] at hj
  rw [List.getElem?_map, List.getElem?_map, List.getElem?_eq_getElem hj,
    List.getElem?_eq_getElem (Nat.lt_trans hij hj)] at heq
  have hi := (h _ i).2 ⟨_, List.getElem?_eq_getElem (Nat.lt_trans hij hj), Option.some.inj heq⟩
  have hj := (h _ j).2 ⟨_, List.getElem?_eq_getElem hj, rfl⟩
  rw [hi] at hj
  exact absurd (Option.some.inj hj) (Nat.ne_of_lt hij)

/-- What is found under a key is the one entry with that key. -/
theorem find?_eq_some_iff (h : l.Sound) (k : κ) (a : α) :
    l.find? k = some a ↔ a ∈ l.toList ∧ key a = k := by
  rw [KeyedList.find?, Option.bind_eq_some_iff]
  constructor
  · rintro ⟨i, hi, ha⟩
    obtain ⟨b, hb, hk⟩ := (h k i).1 hi
    rw [toList, Array.getElem?_toList, ha] at hb
    obtain rfl := Option.some.inj hb
    exact ⟨List.mem_of_getElem? (by rw [toList, Array.getElem?_toList, ha]), hk⟩
  · rintro ⟨ha, hk⟩
    obtain ⟨i, hi⟩ := List.mem_iff_getElem?.1 ha
    exact ⟨i, (h k i).2 ⟨a, hi, hk⟩, by rwa [toList, Array.getElem?_toList] at hi⟩

variable [LawfulBEq κ]

theorem find?_eq (h : l.Sound) (k : κ) : l.find? k = l.toList.find? fun a => key a == k := by
  cases hfind : l.toList.find? fun a => key a == k with
  | some a =>
    rw [h.find?_eq_some_iff]
    exact ⟨List.mem_of_find?_eq_some hfind, eq_of_beq (List.find?_some hfind :)⟩
  | none =>
    rw [Option.eq_none_iff_forall_ne_some]
    intro a ha
    obtain ⟨ha, hk⟩ := (h.find?_eq_some_iff k a).1 ha
    exact List.find?_eq_none.1 hfind a ha (beq_iff_eq.2 hk)

/-- The index knows a key by its position among all keys. -/
theorem index_eq_idxOf? (h : l.Sound) (k : κ) : l.index[k]? = (l.toList.map key).idxOf? k := by
  ext i
  rw [h k i, List.idxOf?_eq_some_iff]
  constructor
  · rintro ⟨a, ha, hk⟩
    obtain ⟨hi, hat⟩ := List.getElem?_eq_some_iff.1 ha
    have hlength : i < (l.toList.map key).length := by rwa [List.length_map]
    have hkey : (l.toList.map key)[i] = k := by rw [List.getElem_map, hat, hk]
    refine ⟨hlength, hkey, fun j hj heq => Nat.ne_of_lt hj ?_⟩
    exact h.nodup.getElem_inj_iff.1 (heq.trans hkey.symm)
  · rintro ⟨hi, hk, -⟩
    rw [List.getElem_map] at hk
    exact ⟨_, List.getElem?_eq_getElem (by rwa [List.length_map] at hi), hk⟩

theorem find?_eq_idxOf? (h : l.Sound) (k : κ) :
    l.find? k = ((l.toList.map key).idxOf? k).bind fun i => l.toList[i]? := by
  rw [find?, h.index_eq_idxOf?]
  simp only [toList, Array.getElem?_toList]

theorem contains_iff (h : l.Sound) (k : κ) :
    l.contains k = true ↔ ∃ a ∈ l.toList, key a = k := by
  rw [contains, Std.HashMap.contains_eq_isSome_getElem?, Option.isSome_iff_exists]
  constructor
  · rintro ⟨i, hi⟩
    obtain ⟨a, ha, hk⟩ := (h k i).1 hi
    exact ⟨a, List.mem_of_getElem? ha, hk⟩
  · rintro ⟨a, ha, hk⟩
    obtain ⟨i, hi⟩ := List.mem_iff_getElem?.1 ha
    exact ⟨i, (h k i).2 ⟨a, hi, hk⟩⟩

theorem contains_eq_false_iff (h : l.Sound) (k : κ) :
    l.contains k = false ↔ ∀ a ∈ l.toList, key a ≠ k := by
  rw [← Bool.not_eq_true, h.contains_iff]
  exact ⟨fun hno a ha hk => hno ⟨a, ha, hk⟩, fun hne ⟨a, ha, hk⟩ => hne a ha hk⟩

theorem push (h : l.Sound) {a : α} (hnew : l.contains (key a) = false) : (l.push a).Sound := by
  intro k i
  have hfree := (h.contains_eq_false_iff _).1 hnew
  have hindex : (l.push a).index = l.index.insert (key a) l.toList.length := by
    simp [KeyedList.push, toList]
  rw [hindex, toList_push, Std.HashMap.getElem?_insert]
  by_cases hk : key a = k
  · subst hk
    rw [if_pos (beq_self_eq_true _)]
    constructor
    · intro hi
      obtain rfl := Option.some.inj hi
      exact ⟨a, by simp, rfl⟩
    · rintro ⟨b, hb, hbk⟩
      rcases Nat.lt_or_ge i l.toList.length with hlt | hge
      · rw [List.getElem?_append_left hlt] at hb
        exact absurd hbk (hfree b (List.mem_of_getElem? hb))
      · have hle := (List.getElem?_eq_some_iff.1 hb).1
        rw [List.length_append, List.length_singleton] at hle
        congr 1
        omega
  · rw [if_neg (by simpa using hk), h k i]
    constructor
    · rintro ⟨b, hb, hbk⟩
      exact ⟨b, by rw [List.getElem?_append_left (List.getElem?_eq_some_iff.1 hb).1, hb], hbk⟩
    · rintro ⟨b, hb, hbk⟩
      rcases Nat.lt_or_ge i l.toList.length with hlt | hge
      · exact ⟨b, by rwa [List.getElem?_append_left hlt] at hb, hbk⟩
      · rw [List.getElem?_append_right hge] at hb
        have hmem := List.mem_singleton.1 (List.mem_of_getElem? hb)
        exact absurd (hmem ▸ hbk) hk

end Sound

end KeyedList

end DebugCatalog
