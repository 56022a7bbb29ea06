import DebugCatalog.Proofs.Collector.Credit

/-!
# The first entry of a key wins

Merging offers the entries of one collector to another, one after the other, and an
entry is taken if its key is free.  `KeyedList.offer` is this step for one list, and both
lists of a merged collector come about by it (`types_merge`, `functions_merge`).  Entries
without a name are not offered at all, but no collector that is `Sound` has any.

Looking up a key in a list of collectors merged in order therefore means to ask them in
that order, and to take the first answer (`IsLookup.mergeAll`).  `IsLookup` is what both ways
to look up a key have in common.
-/

namespace DebugCatalog

/-! ### Entries offered to a list -/

namespace KeyedList

variable {α κ : Type} [BEq κ] [Hashable κ] {key : α → κ}

/-- Takes an entry in if its key is free. -/
def offer (l : KeyedList key) (a : α) : KeyedList key :=
  if l.contains (key a) then l else l.push a

theorem contains_empty (k : κ) : (empty : KeyedList key).contains k = false :=
  Std.HashMap.contains_empty

theorem find?_empty (k : κ) : (empty : KeyedList key).find? k = none := by
  rw [find?, empty, Std.HashMap.getElem?_empty, Option.bind_none]

variable [LawfulBEq κ] {l : KeyedList key}

theorem Sound.offer (h : l.Sound) (a : α) : (l.offer a).Sound := by
  unfold KeyedList.offer
  split
  · exact h
  · next hfree => exact h.push (Bool.eq_false_iff.2 hfree)

/-- What the list has under a key stays, and otherwise the new entry may have it. -/
theorem Sound.find?_offer (h : l.Sound) (a : α) (k : κ) :
    (l.offer a).find? k = (l.find? k).or ([a].find? fun b => key b == k) := by
  unfold KeyedList.offer
  split
  · next htaken =>
    by_cases hk : key a = k
    · obtain ⟨b, hb, hkey⟩ := (h.contains_iff (key a)).1 htaken
      have hfound := (h.find?_eq_some_iff k b).2 ⟨hb, hkey.trans hk⟩
      rw [hfound, Option.some_or]
    · rw [List.find?_singleton, if_neg (by rwa [beq_iff_eq]), Option.or_none]
  · next hfree =>
    rw [(h.push (Bool.eq_false_iff.2 hfree)).find?_eq, toList_push, List.find?_append, h.find?_eq]

theorem Sound.find?_foldl_offer (h : l.Sound) (as : List α) (k : κ) :
    (as.foldl KeyedList.offer l).find? k = (l.find? k).or (as.find? fun a => key a == k) := by
  induction as generalizing l with
  | nil => rw [List.foldl_nil, List.find?_nil, Option.or_none]
  | cons a as ih =>
    rw [List.foldl_cons, ih (h.offer a), h.find?_offer, Option.or_assoc, ← List.find?_append,
      List.singleton_append]

/-- Entries with distinct keys are taken in their order, less those whose key is taken. -/
theorem Sound.toList_foldl_offer (h : l.Sound) {as : List α} (has : (as.map key).Nodup) :
    (as.foldl KeyedList.offer l).toList =
      l.toList ++ as.filter fun a => !l.contains (key a) := by
  induction as generalizing l with
  | nil => rw [List.foldl_nil, List.filter_nil, List.append_nil]
  | cons a as ih =>
    obtain ⟨hfresh, hdistinct⟩ := List.nodup_cons.1 has
    rw [List.foldl_cons, ih (h.offer a) hdistinct, List.filter_cons]
    unfold KeyedList.offer
    cases htaken : l.contains (key a) with
    | true => rfl
    | false =>
      have hrest : as.filter (fun b => !(l.push a).contains (key b)) =
          as.filter fun b => !l.contains (key b) := by
        apply List.filter_congr
        intro b hb
        have hne : key a ≠ key b := fun heq => hfresh (heq ▸ List.mem_map_of_mem hb)
        rw [contains, KeyedList.push, Std.HashMap.contains_insert, beq_eq_false_iff_ne.2 hne,
          Bool.false_or, contains]
      simp only [Bool.not_false, Bool.false_eq_true, if_false, if_true, hrest, toList_push,
        List.append_assoc, List.singleton_append]

/-- A list without entries takes them all. -/
theorem Sound.toList_foldl_offer_of_nil (h : l.Sound) (hnil : l.toList = []) {as : List α}
    (has : (as.map key).Nodup) : (as.foldl KeyedList.offer l).toList = as := by
  rw [h.toList_foldl_offer has, hnil, List.nil_append]
  refine List.filter_eq_self.2 fun a _ => ?_
  rw [Bool.not_eq_true', h.contains_eq_false_iff, hnil]
  exact fun _ hb => absurd hb List.not_mem_nil

end KeyedList

namespace Collector

variable {c d : Collector}

/-! ### Merging as offering -/

theorem types_absorbType (c : Collector) {e : TypeEntry} (h : e.name ≠ "") :
    ((c.crediting e.source).addType e.name e.type).types = c.types.offer e := by
  have htakes : (c.crediting e.source).takesType e.name = !c.types.contains e.name := by
    rw [takesType, bne_iff_ne.2 h, Bool.true_and]
    rfl
  rw [addType, htakes, KeyedList.offer]
  cases c.types.contains e.name with
  | true => rfl
  | false => rfl

theorem functions_absorbFunction (c : Collector) {e : FunctionEntry}
    (h : e.function.isAnonymous = false) :
    ((c.crediting e.source).addFunction e.function).functions = c.functions.offer e := by
  have htakes : (c.crediting e.source).takesFunction e.function =
      !c.functions.contains e.address := by
    rw [takesFunction, h, Bool.not_false, Bool.true_and]
    rfl
  rw [addFunction, htakes, KeyedList.offer]
  cases c.functions.contains e.address with
  | true => rfl
  | false => rfl

theorem functions_addType (c : Collector) (name : String) (type : DataType) :
    (c.addType name type).functions = c.functions := by
  unfold addType
  split <;> rfl

theorem types_addFunction (c : Collector) (f : FunctionRecord) :
    (c.addFunction f).types = c.types := by
  unfold addFunction
  split <;> rfl

theorem types_absorbType_of_nameless (c : Collector) {e : TypeEntry} (h : e.name = "") :
    ((c.crediting e.source).addType e.name e.type).types = c.types := by
  rw [addType, takesType, h]
  rfl

theorem functions_absorbFunction_of_nameless (c : Collector) {e : FunctionEntry}
    (h : e.function.isAnonymous = true) :
    ((c.crediting e.source).addFunction e.function).functions = c.functions := by
  rw [addFunction, takesFunction, h]
  rfl

theorem lists_foldl_absorbType (es : List TypeEntry) (state : Collector × MergeCount) :
    (es.foldl absorbType state).1.types =
        (es.filter fun e => e.name != "").foldl KeyedList.offer state.1.types ∧
      (es.foldl absorbType state).1.functions = state.1.functions := by
  induction es generalizing state with
  | nil => exact ⟨rfl, rfl⟩
  | cons e es ih =>
    obtain ⟨htypes, hfunctions⟩ := ih (absorbType state e)
    have hother : (absorbType state e).1.functions = state.1.functions :=
      functions_addType (state.1.crediting e.source) e.name e.type
    refine ⟨htypes.trans ?_, hfunctions.trans hother⟩
    by_cases he : e.name = ""
    · have hentry : (absorbType state e).1.types = state.1.types :=
        types_absorbType_of_nameless _ he
      rw [hentry, List.filter_cons_of_neg (by simp [he])]
    · have hentry : (absorbType state e).1.types = state.1.types.offer e := types_absorbType _ he
      rw [hentry, List.filter_cons_of_pos (by simp [he]), List.foldl_cons]

theorem lists_foldl_absorbFunction (es : List FunctionEntry) (state : Collector × MergeCount) :
    (es.foldl absorbFunction state).1.functions =
        (es.filter fun e => !e.function.isAnonymous).foldl KeyedList.offer state.1.functions ∧
      (es.foldl absorbFunction state).1.types = state.1.types := by
  induction es generalizing state with
  | nil => exact ⟨rfl, rfl⟩
  | cons e es ih =>
    obtain ⟨hfunctions, htypes⟩ := ih (absorbFunction state e)
    have hother : (absorbFunction state e).1.types = state.1.types :=
      types_addFunction (state.1.crediting e.source) e.function
    refine ⟨hfunctions.trans ?_, htypes.trans hother⟩
    cases he : e.function.isAnonymous with
    | true =>
      have hentry : (absorbFunction state e).1.functions = state.1.functions :=
        functions_absorbFunction_of_nameless _ he
      rw [hentry, List.filter_cons_of_neg (by simp [he])]
    | false =>
      have hentry : (absorbFunction state e).1.functions = state.1.functions.offer e :=
        functions_absorbFunction _ he
      rw [hentry, List.filter_cons_of_pos (by simp [he]), List.foldl_cons]

/-- Whatever is merged, its entries with a name are offered in their order. -/
theorem types_merge_filter (c d : Collector) : (c.merge d).1.types =
    (d.types.toList.filter fun e => e.name != "").foldl KeyedList.offer c.types := by
  obtain ⟨htypes, -⟩ := lists_foldl_absorbType d.types.toList (c, {})
  obtain ⟨-, hkept⟩ := lists_foldl_absorbFunction d.functions.toList
    (d.types.toList.foldl absorbType (c, {}))
  exact hkept.trans htypes

theorem functions_merge_filter (c d : Collector) : (c.merge d).1.functions =
    (d.functions.toList.filter fun e => !e.function.isAnonymous).foldl KeyedList.offer
      c.functions := by
  obtain ⟨-, hkept⟩ := lists_foldl_absorbType d.types.toList (c, {})
  obtain ⟨hfunctions, -⟩ := lists_foldl_absorbFunction d.functions.toList
    (d.types.toList.foldl absorbType (c, {}))
  rw [hkept] at hfunctions
  exact hfunctions

theorem types_merge (c : Collector) (hd : d.Sound) :
    (c.merge d).1.types = d.types.toList.foldl KeyedList.offer c.types := by
  rw [types_merge_filter, List.filter_eq_self.2 fun e he => bne_iff_ne.2 (hd.typeNamed e he)]

theorem functions_merge (c : Collector) (hd : d.Sound) :
    (c.merge d).1.functions = d.functions.toList.foldl KeyedList.offer c.functions := by
  rw [functions_merge_filter,
    List.filter_eq_self.2 fun e he => congrArg not (hd.functionNamed e he)]

/-! ### Looking up what was merged -/

/-- A way to look up a key: a name among types, or an address among functions.  `source` is
who is credited with what is found. -/
structure IsLookup {ε : Type} (look : Collector → Option ε) (source : ε → Option String) :
    Prop where
  empty : look .empty = none
  merge : ∀ c d : Collector, c.Sound → d.Sound → look (c.merge d).1 = (look c).or (look d)
  isSome_creditedTo : ∀ (parser : String) (c : Collector), c.Sound →
    (look (c.creditedTo parser)).isSome = (look c).isSome
  source : ∀ (parser : String) (c : Collector) (e : ε), c.Sound → c.IsFrom parser →
    look c = some e → source e = some parser

theorem isLookup_types (name : String) :
    IsLookup (fun c => c.types.find? name) TypeEntry.source where
  empty := KeyedList.find?_empty name
  merge c d hc hd := by rw [types_merge c hd, hc.types.find?_foldl_offer, hd.types.find?_eq]
  isSome_creditedTo parser c hc := by rw [hc.find?_types_creditedTo, Option.isSome_map]
  source _ _ e hc hfrom he := hfrom.types e ((hc.types.find?_eq_some_iff name e).1 he).1

theorem isLookup_functions (address : UInt64) :
    IsLookup (fun c => c.functions.find? address) FunctionEntry.source where
  empty := KeyedList.find?_empty address
  merge c d hc hd := by
    rw [functions_merge c hd, hc.functions.find?_foldl_offer, hd.functions.find?_eq]
  isSome_creditedTo parser c hc := by rw [hc.find?_functions_creditedTo, Option.isSome_map]
  source _ _ e hc hfrom he := hfrom.functions e ((hc.functions.find?_eq_some_iff address e).1 he).1

/-- Collectors merged into an empty one, in their order. -/
def mergeAll (cs : List Collector) : Collector :=
  cs.foldl (fun merged c => (merged.merge c).1) .empty

theorem Sound.foldl_merge (hc : c.Sound) (cs : List Collector) :
    (cs.foldl (fun merged c => (merged.merge c).1) c).Sound := by
  induction cs generalizing c with
  | nil => exact hc
  | cons d cs ih => exact ih (hc.merge d)

theorem sound_mergeAll (cs : List Collector) : (mergeAll cs).Sound :=
  sound_empty.foldl_merge cs

section Look

variable {ε : Type} {look : Collector → Option ε} {source : ε → Option String}

theorem IsLookup.foldl_merge (h : IsLookup look source) (hc : c.Sound) {cs : List Collector}
    (hcs : ∀ d ∈ cs, d.Sound) :
    look (cs.foldl (fun merged c => (merged.merge c).1) c) = (look c).or (cs.findSome? look) := by
  induction cs generalizing c with
  | nil => rw [List.foldl_nil, List.findSome?_nil, Option.or_none]
  | cons d cs ih =>
    obtain ⟨hd, hcs⟩ := List.forall_mem_cons.1 hcs
    rw [List.foldl_cons, ih (hc.merge d) hcs, h.merge c d hc hd, List.findSome?_cons,
      Option.or_assoc]
    cases look d <;> rfl

/-- **The first collector that has a key decides about it.** -/
theorem IsLookup.mergeAll (h : IsLookup look source) {cs : List Collector}
    (hcs : ∀ d ∈ cs, d.Sound) : look (mergeAll cs) = cs.findSome? look := by
  rw [Collector.mergeAll, h.foldl_merge sound_empty hcs, h.empty, Option.none_or]

end Look

/-! ### Merging into nothing -/

theorem isEmpty_iff : c.isEmpty = true ↔ c.types.toList = [] ∧ c.functions.toList = [] := by
  rw [isEmpty, Bool.and_eq_true, KeyedList.isEmpty, KeyedList.isEmpty, Array.isEmpty_iff,
    Array.isEmpty_iff, KeyedList.toList, KeyedList.toList, Array.toList_eq_nil_iff,
    Array.toList_eq_nil_iff]

/-- A collector merged into one without entries is there as a whole. -/
theorem Sound.sameEntries_merge (hd : d.Sound) (hempty : d.isEmpty = true) (hc : c.Sound) :
    (d.merge c).1.SameEntries c := by
  obtain ⟨htypes, hfunctions⟩ := isEmpty_iff.1 hempty
  constructor
  · rw [types_merge d hc, hd.types.toList_foldl_offer_of_nil htypes hc.types.nodup]
  · rw [functions_merge d hc, hd.functions.toList_foldl_offer_of_nil hfunctions hc.functions.nodup]

theorem Sound.sameEntries_mergeAll (hc : c.Sound) : (mergeAll [c]).SameEntries c :=
  sound_empty.sameEntries_merge rfl hc

end Collector

end DebugCatalog
