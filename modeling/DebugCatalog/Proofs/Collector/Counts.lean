import DebugCatalog.Proofs.Collector.FirstWins

/-!
# What a merge counts

A merge counts the entries that it takes, type by type and function by function.  The
collector grows by as many (`typeCount_merge`, `functionCount_merge`).

`IsPart` is what the two lists of a collector have in common: how they grow, what is
counted, and how they are looked up.  For either list, the count of a merge is the number of
keys of the other collector that were still free (`IsPart.taken_merge`), and a key is
in a merged list if it is in one of the lists that were merged (`IsPart.contains_mergeAll`).
-/

namespace DebugCatalog

namespace KeyedList

variable {α κ : Type} [BEq κ] [Hashable κ] {key : α → κ}

/-- The keys in the order of their entries. -/
def keys (l : KeyedList key) : List κ :=
  l.toList.map key

/-- The keys of a list that none of the earlier lists has. -/
def newKeys (earlier : List (KeyedList key)) (l : KeyedList key) : List κ :=
  l.keys.filter fun k => !earlier.any fun e => e.keys.contains k

variable [LawfulBEq κ] {l : KeyedList key}

theorem Sound.contains_eq (h : l.Sound) (k : κ) : l.contains k = l.keys.contains k := by
  rw [Bool.eq_iff_iff, h.contains_iff, List.contains_iff_mem, keys, List.mem_map]

theorem Sound.isSome_find? (h : l.Sound) (k : κ) : (l.find? k).isSome = l.contains k := by
  rw [Bool.eq_iff_iff, h.find?_eq, List.find?_isSome, h.contains_iff]
  simp only [beq_iff_eq]

end KeyedList

namespace Collector

variable {c d : Collector}

/-! ### Steps that count what they take -/

section Counting

variable {size : Collector → Nat} {taken : MergeCount → Nat}

/-- From one state of a merge to a later one, as many entries were counted as came in. -/
def CountsTaken (size : Collector → Nat) (taken : MergeCount → Nat)
    (before after : Collector × MergeCount) : Prop :=
  size after.1 + taken before.2 = size before.1 + taken after.2

theorem CountsTaken.trans {s t u : Collector × MergeCount} (hst : CountsTaken size taken s t)
    (htu : CountsTaken size taken t u) : CountsTaken size taken s u := by
  unfold CountsTaken at *
  omega

theorem countsTaken_foldl {ε : Type}
    {step : Collector × MergeCount → ε → Collector × MergeCount}
    (hstep : ∀ state e, CountsTaken size taken state (step state e)) (es : List ε)
    (state : Collector × MergeCount) : CountsTaken size taken state (es.foldl step state) := by
  induction es generalizing state with
  | nil => rfl
  | cons e es ih => exact (hstep state e).trans (ih (step state e))

/-- A merge grows a collector by what it counts, if each of its steps does. -/
theorem size_merge (hsource : ∀ c source, size (crediting c source) = size c)
    (hnone : taken {} = 0)
    (htype : ∀ state e, CountsTaken size taken state (absorbType state e))
    (hfunction : ∀ state e, CountsTaken size taken state (absorbFunction state e))
    (c d : Collector) : size (c.merge d).1 = size c + taken (c.merge d).2 := by
  have hcounts := (countsTaken_foldl htype d.types.toList (c, {})).trans
    (countsTaken_foldl hfunction d.functions.toList _)
  rw [CountsTaken, hnone, Nat.add_zero] at hcounts
  exact (hsource _ _).trans hcounts

end Counting

/-! ### Counting types -/

theorem countsTaken_absorbType (state : Collector × MergeCount) (e : TypeEntry) :
    CountsTaken typeCount MergeCount.typesAdded state (absorbType state e) := by
  obtain ⟨c, n⟩ := state
  have htakes : (c.crediting e.source).takesType e.name = c.takesType e.name := rfl
  rw [CountsTaken, absorbType, addType, htakes]
  cases c.takesType e.name with
  | true =>
    simp only [if_true, typeCount, KeyedList.size_eq_length, KeyedList.toList_push,
      List.length_append, List.length_singleton, crediting]
    omega
  | false => rfl

theorem countsTaken_types_absorbFunction (state : Collector × MergeCount) (e : FunctionEntry) :
    CountsTaken typeCount MergeCount.typesAdded state (absorbFunction state e) := by
  obtain ⟨c, n⟩ := state
  have hsize := congrArg KeyedList.size (types_addFunction (c.crediting e.source) e.function)
  rw [CountsTaken, absorbFunction]
  cases c.takesFunction e.function with
  | true => exact congrArg (· + n.typesAdded) hsize
  | false => exact congrArg (· + n.typesAdded) hsize

theorem typeCount_merge (c d : Collector) :
    (c.merge d).1.typeCount = c.typeCount + (c.merge d).2.typesAdded :=
  size_merge (fun _ _ => rfl) rfl countsTaken_absorbType countsTaken_types_absorbFunction c d

/-! ### Counting functions -/

theorem countsTaken_absorbFunction (state : Collector × MergeCount) (e : FunctionEntry) :
    CountsTaken functionCount MergeCount.functionsAdded state (absorbFunction state e) := by
  obtain ⟨c, n⟩ := state
  have htakes : (c.crediting e.source).takesFunction e.function = c.takesFunction e.function := rfl
  rw [CountsTaken, absorbFunction, addFunction, htakes]
  cases c.takesFunction e.function with
  | true =>
    simp only [if_true, functionCount, KeyedList.size_eq_length, KeyedList.toList_push,
      List.length_append, List.length_singleton, crediting]
    omega
  | false => rfl

theorem countsTaken_functions_absorbType (state : Collector × MergeCount) (e : TypeEntry) :
    CountsTaken functionCount MergeCount.functionsAdded state (absorbType state e) := by
  obtain ⟨c, n⟩ := state
  have hsize := congrArg KeyedList.size (functions_addType (c.crediting e.source) e.name e.type)
  rw [CountsTaken, absorbType]
  cases c.takesType e.name with
  | true => exact congrArg (· + n.functionsAdded) hsize
  | false => exact congrArg (· + n.functionsAdded) hsize

theorem functionCount_merge (c d : Collector) :
    (c.merge d).1.functionCount = c.functionCount + (c.merge d).2.functionsAdded :=
  size_merge (fun _ _ => rfl) rfl countsTaken_functions_absorbType countsTaken_absorbFunction c d

/-! ### Either list -/

/-- One of the two lists of a collector, who is credited with an entry of it, and what a
merge counts of it. -/
structure IsPart {α κ : Type} [BEq κ] [Hashable κ] {key : α → κ}
    (part : Collector → KeyedList key) (source : α → Option String) (taken : MergeCount → Nat) :
    Prop where
  empty : part .empty = .empty
  sound : ∀ c : Collector, c.Sound → (part c).Sound
  merge : ∀ c d : Collector, d.Sound →
    part (c.merge d).1 = (part d).toList.foldl KeyedList.offer (part c)
  size : ∀ c d : Collector, (part (c.merge d).1).size = (part c).size + taken (c.merge d).2
  lookup : ∀ k, IsLookup (fun c => (part c).find? k) source

theorem isPart_types : IsPart Collector.types TypeEntry.source MergeCount.typesAdded where
  empty := rfl
  sound _ hc := hc.types
  merge c _ hd := types_merge c hd
  size := typeCount_merge
  lookup := isLookup_types

theorem isPart_functions :
    IsPart Collector.functions FunctionEntry.source MergeCount.functionsAdded where
  empty := rfl
  sound _ hc := hc.functions
  merge c _ hd := functions_merge c hd
  size := functionCount_merge
  lookup := isLookup_functions

section Part

variable {α κ : Type} [BEq κ] [Hashable κ] [LawfulBEq κ] {key : α → κ}
  {part : Collector → KeyedList key} {source : α → Option String} {taken : MergeCount → Nat}

/-- **A merge counts the keys that were still free.** -/
theorem IsPart.taken_merge (h : IsPart part source taken) (hc : c.Sound) (hd : d.Sound) :
    taken (c.merge d).2 = ((part d).keys.filter fun k => !(part c).contains k).length := by
  have hsize := h.size c d
  rw [h.merge c d hd, KeyedList.size_eq_length, KeyedList.size_eq_length,
    (h.sound c hc).toList_foldl_offer (h.sound d hd).nodup, List.length_append] at hsize
  rw [KeyedList.keys, List.filter_map, List.length_map]
  exact (Nat.add_left_cancel hsize).symm

theorem IsPart.contains_mergeAll (h : IsPart part source taken) {cs : List Collector}
    (hcs : ∀ c ∈ cs, c.Sound) (k : κ) :
    (part (mergeAll cs)).contains k = (cs.map part).any fun l => l.keys.contains k := by
  rw [← (h.sound _ (sound_mergeAll cs)).isSome_find?, (h.lookup k).mergeAll hcs, Bool.eq_iff_iff,
    List.findSome?_isSome_iff, List.any_map, List.any_eq_true]
  refine exists_congr fun c => and_congr_right fun hc => ?_
  have hsound := h.sound c (hcs c hc)
  rw [hsound.isSome_find?, hsound.contains_eq]
  rfl

end Part

end Collector

end DebugCatalog
