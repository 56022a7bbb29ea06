import DebugCatalog.Proofs.Collector.Adding
import DebugCatalog.Proofs.Collector.Counts
import DebugCatalog.Proofs.Collector.Lookups

/-!
# What a collector takes in

A collector only ever grows at its end, whether entries are added to it or merged into it.
`TakesIn` says what additions come to: behind what was there stands, of each key that was
still free, the first entry, under the credit that the collector gives, and what it gives next
is the same (`Sound.takesIn_addAll`).

`KeyedList.IsMerge` says what a merge comes to in one of the two lists, together with the
counts: of the other collector's entries those under free keys, in their order and under
the credit that they have there.  The counts of a merge are exact (`typesCounted_merge`,
`functionsCounted_merge`), since every step counts its entry once, as taken or as left out.
`isMerge_of_held` puts this together for any two collectors that somebody can hold.

What was added to a collector of its own may be merged instead of being added
(`merge_collected`), and so may what a parser adds (`parseInto_eq_merge`).
-/

namespace DebugCatalog

/-! ### Entries of one list -/

namespace KeyedList

variable {α κ : Type} [BEq κ] [Hashable κ] {key : α → κ}

/-- Of each key that the list does not have, the first entry. -/
def firstNew (l : KeyedList key) (as : List α) : List α :=
  (as.filter fun a => !l.keys.contains (key a)).eraseDupsBy fun a b => key a == key b

/-- What a list becomes when another one is merged into it, and the counts that tell of it. -/
structure IsMerge (l m merged : KeyedList key) (added skipped : Nat) : Prop where
  entries : merged.toList = l.toList ++ m.toList.filter fun a => !l.keys.contains (key a)
  added_eq : added = m.toList.countP fun a => !l.keys.contains (key a)
  skipped_eq : skipped = m.toList.countP fun a => l.keys.contains (key a)
  total : added + skipped = m.size
  /-- What was found under a key is still found there. -/
  kept : ∀ k a, l.find? k = some a → merged.find? k = some a

variable [LawfulBEq κ] {l : KeyedList key}

theorem Sound.toList_foldl_offer_firstNew (h : l.Sound) (as : List α) :
    (as.foldl KeyedList.offer l).toList = l.toList ++ l.firstNew as := by
  simp only [toList_foldl_offer_eq, firstNew, h.contains_eq]

end KeyedList

namespace Collector

variable {c d : Collector}

/-! ### Adding -/

/-- What a collector becomes when it takes in additions under a credit: their first entries
of free keys follow what was there, and what comes next is credited as before. -/
structure TakesIn (c : Collector) (credit : Option String) (additions : List Addition)
    (result : Collector) : Prop where
  types : result.types.toList =
    c.types.toList ++ c.types.firstNew (additions.flatMap (Addition.typeEntries credit))
  functions : result.functions.toList =
    c.functions.toList ++
      c.functions.firstNew (additions.flatMap (Addition.functionEntries credit))
  source : result.source = c.source

theorem source_addAll (c : Collector) (additions : List Addition) :
    (c.addAll additions).source = c.source := by
  induction additions generalizing c with
  | nil => rfl
  | cons a additions ih => exact (ih (c.add a)).trans (source_add c a)

theorem Sound.takesIn_addAll (h : c.Sound) (additions : List Addition) :
    c.TakesIn c.source additions (c.addAll additions) where
  types := by rw [types_addAll, h.types.toList_foldl_offer_firstNew]
  functions := by rw [functions_addAll, h.functions.toList_foldl_offer_firstNew]
  source := source_addAll c additions

/-- Additions may come under another credit than the one that is given back. -/
theorem Sound.takesIn_crediting (h : c.Sound) (credit : Option String)
    (additions : List Addition) :
    c.TakesIn credit additions (((c.crediting credit).addAll additions).crediting c.source) := by
  have hadded := (h.crediting credit).takesIn_addAll additions
  exact ⟨hadded.types, hadded.functions, rfl⟩

theorem takesIn_finding (p : Parser) (v : Image) : empty.TakesIn (p.credit empty v)
    (p.ownPass v).additions (p.finding v).collector := by
  rw [collector_finding]
  exact sound_empty.takesIn_crediting _ _

/-! ### Counting what a merge was offered -/

section Counting

variable {count : MergeCount → Nat} {t f : Nat}

theorem count_foldl {ε : Type} {step : Collector × MergeCount → ε → Collector × MergeCount}
    {n : Nat} (hstep : ∀ state e, count (step state e).2 = count state.2 + n) (es : List ε)
    (state : Collector × MergeCount) :
    count (es.foldl step state).2 = count state.2 + n * es.length := by
  induction es generalizing state with
  | nil => rfl
  | cons e es ih =>
    rw [List.foldl_cons, ih (step state e), hstep, List.length_cons, Nat.mul_succ]
    omega

/-- A number that grows by `t` with every type and by `f` with every function. -/
theorem count_merge (count : MergeCount → Nat) (hnone : count {} = 0)
    (htype : ∀ state e, count (absorbType state e).2 = count state.2 + t)
    (hfunction : ∀ state e, count (absorbFunction state e).2 = count state.2 + f)
    (c d : Collector) :
    count (c.merge d).2 = t * d.typeCount + f * d.functionCount := by
  have htypes := count_foldl htype d.types.toList (c, {})
  have hfunctions := count_foldl hfunction d.functions.toList
    (d.types.toList.foldl absorbType (c, {}))
  rw [htypes, hnone, Nat.zero_add] at hfunctions
  rw [typeCount, functionCount, KeyedList.size_eq_length, KeyedList.size_eq_length]
  exact hfunctions

end Counting

theorem typesCounted_merge (c d : Collector) :
    (c.merge d).2.typesAdded + (c.merge d).2.typesSkipped = d.typeCount := by
  have htype (state : Collector × MergeCount) (e : TypeEntry) :
      (absorbType state e).2.typesAdded + (absorbType state e).2.typesSkipped =
        state.2.typesAdded + state.2.typesSkipped + 1 := by
    obtain ⟨c, n⟩ := state
    rw [absorbType]
    cases c.takesType e.name with
    | true => exact Nat.add_right_comm _ _ _
    | false => rfl
  have hfunction (state : Collector × MergeCount) (e : FunctionEntry) :
      (absorbFunction state e).2.typesAdded + (absorbFunction state e).2.typesSkipped =
        state.2.typesAdded + state.2.typesSkipped + 0 := by
    obtain ⟨c, n⟩ := state
    rw [absorbFunction]
    cases c.takesFunction e.function <;> rfl
  have hcounts := count_merge (fun n => n.typesAdded + n.typesSkipped) rfl htype hfunction c d
  rwa [Nat.one_mul, Nat.zero_mul, Nat.add_zero] at hcounts

theorem functionsCounted_merge (c d : Collector) :
    (c.merge d).2.functionsAdded + (c.merge d).2.functionsSkipped = d.functionCount := by
  have htype (state : Collector × MergeCount) (e : TypeEntry) :
      (absorbType state e).2.functionsAdded + (absorbType state e).2.functionsSkipped =
        state.2.functionsAdded + state.2.functionsSkipped + 0 := by
    obtain ⟨c, n⟩ := state
    rw [absorbType]
    cases c.takesType e.name <;> rfl
  have hfunction (state : Collector × MergeCount) (e : FunctionEntry) :
      (absorbFunction state e).2.functionsAdded + (absorbFunction state e).2.functionsSkipped =
        state.2.functionsAdded + state.2.functionsSkipped + 1 := by
    obtain ⟨c, n⟩ := state
    rw [absorbFunction]
    cases c.takesFunction e.function with
    | true => exact Nat.add_right_comm _ _ _
    | false => rfl
  have hcounts := count_merge (fun n => n.functionsAdded + n.functionsSkipped) rfl htype hfunction
    c d
  rwa [Nat.zero_mul, Nat.zero_add, Nat.one_mul] at hcounts

/-! ### Merging -/

section Part

variable {α κ : Type} [BEq κ] [Hashable κ] [LawfulBEq κ] {key : α → κ}
  {part : Collector → KeyedList key} {source : α → Option String} {taken : MergeCount → Nat}

/-- Either list is merged as it should be, if no entry goes uncounted. -/
theorem IsPart.isMerge (h : IsPart part source taken) (hc : c.Sound) (hd : d.Sound)
    {skipped : Nat} (htotal : taken (c.merge d).2 + skipped = (part d).size) :
    (part c).IsMerge (part d) (part (c.merge d).1) (taken (c.merge d).2) skipped := by
  have hsound := h.sound c hc
  have hadded : taken (c.merge d).2 =
      (part d).toList.countP fun a => !(part c).keys.contains (key a) := by
    rw [h.taken_merge hc hd, KeyedList.keys, List.filter_map, List.length_map,
      ← List.countP_eq_length_filter]
    simp only [Function.comp_def, hsound.contains_eq]
  have hlength := List.length_eq_countP_add_countP (fun a => (part c).keys.contains (key a))
    (l := (part d).toList)
  simp only [decide_not, Bool.decide_eq_true] at hlength
  refine ⟨?_, hadded, ?_, htotal, ?_⟩
  · rw [h.merge c d hd, hsound.toList_foldl_offer (h.sound d hd).nodup]
    simp only [hsound.contains_eq]
  · rw [hadded, KeyedList.size_eq_length, hlength] at htotal
    omega
  · intro k a hfound
    have hmerged := (h.lookup k).merge c d hc hd
    rw [hfound, Option.some_or] at hmerged
    exact hmerged

end Part

/-- **A merge appends what is new and counts exactly.**  This holds of both lists, and what is
added later is credited as it would have been before. -/
theorem isMerge_of_held {a b : Collector} (ha : a.Held) (hb : b.Held) :
    a.types.IsMerge b.types (a.merge b).1.types
      (a.merge b).2.typesAdded (a.merge b).2.typesSkipped ∧
    a.functions.IsMerge b.functions (a.merge b).1.functions
      (a.merge b).2.functionsAdded (a.merge b).2.functionsSkipped ∧
    (a.merge b).1.source = a.source ∧
    ∀ additions, (a.merge b).1.TakesIn a.source additions ((a.merge b).1.addAll additions) := by
  refine ⟨?_, ?_, rfl, ?_⟩
  · exact isPart_types.isMerge ha.sound hb.sound (typesCounted_merge a b)
  · exact isPart_functions.isMerge ha.sound hb.sound (functionsCounted_merge a b)
  · exact (ha.sound.merge b).takesIn_addAll

/-- What a parser has added to a collector of its own. -/
def collected (parser : String) (additions : List Addition) : Collector :=
  (empty.crediting (some parser)).addAll additions

theorem held_collected (parser : String) (additions : List Addition) :
    (collected parser additions).Held :=
  (Held.empty.given parser).addAll additions

theorem toList_types_collected (parser : String) (additions : List Addition) :
    (collected parser additions).types.toList = empty.types.firstNew
      (additions.flatMap (Addition.typeEntries (some parser))) :=
  ((sound_empty.crediting (some parser)).takesIn_addAll additions).types

theorem toList_functions_collected (parser : String) (additions : List Addition) :
    (collected parser additions).functions.toList = empty.functions.firstNew
      (additions.flatMap (Addition.functionEntries (some parser))) :=
  ((sound_empty.crediting (some parser)).takesIn_addAll additions).functions

/-- To merge what was added to a collector of its own is to add it. -/
theorem merge_collected (c : Collector) (parser : String) (additions : List Addition) :
    (c.merge (collected parser additions)).1 =
      ((c.crediting (some parser)).addAll additions).crediting c.source := by
  have hsound := (held_collected parser additions).sound
  refine eq_of_lists ?_ ?_ rfl
  · have hadded := types_addAll (c.crediting (some parser)) additions
    rw [types_merge c hsound, collected, types_addAll]
    exact (KeyedList.sound_empty.foldl_offer_foldl_offer c.types _).trans hadded.symm
  · have hadded := functions_addAll (c.crediting (some parser)) additions
    rw [functions_merge c hsound, collected, functions_addAll]
    exact (KeyedList.sound_empty.foldl_offer_foldl_offer c.functions _).trans hadded.symm

/-- So a parser that has another one run over its collector merges what that one adds. -/
theorem parseInto_eq_merge {p : Parser} {v : Image} (h : p.startsOver c v = false) :
    (p.parseInto c v).1 = c.add (.merge (collected p.name (p.passOver c v).additions)) :=
  (Parser.parseInto_of_keeps h).trans (merge_collected c p.name _).symm

def initFunction : FunctionRecord :=
  FunctionRecord.new "init" "init" "init" 16 none []

def tableFunction : FunctionRecord :=
  FunctionRecord.new "table" "table" "table" 32 none []

/-- What the symbols of a program gave, in the hands of another parser. -/
def symbolsHeld : Collector :=
  (collected "symbols" [.type "flag" .bool, .function initFunction]).crediting (some "btf")

/-- Of two types and two functions, one each is among those of the symbols. -/
def overlaid : Collector :=
  collected "dwarf" [.type "size_t" (.int 8 false), .type "flag" .void,
    .function { initFunction with shortName := "_init" }, .function tableFunction]

theorem held_symbolsHeld : symbolsHeld.Held :=
  (held_collected _ _).given "btf"

theorem toList_types_symbolsHeld : symbolsHeld.types.toList =
    [{ name := "flag", type := .bool, source := some "symbols" }] :=
  toList_types_collected _ _

theorem toList_functions_symbolsHeld : symbolsHeld.functions.toList =
    [{ function := initFunction, source := some "symbols" }] :=
  toList_functions_collected _ _

theorem held_overlaid : overlaid.Held :=
  held_collected _ _

theorem toList_types_overlaid : overlaid.types.toList =
    [{ name := "size_t", type := .int 8 false, source := some "dwarf" },
      { name := "flag", type := .void, source := some "dwarf" }] :=
  toList_types_collected _ _

theorem toList_functions_overlaid : overlaid.functions.toList =
    [{ function := { initFunction with shortName := "_init" }, source := some "dwarf" },
      { function := tableFunction, source := some "dwarf" }] :=
  toList_functions_collected _ _

theorem isMerge_of_held_overlaid :
    symbolsHeld.Held ∧ overlaid.Held ∧
    (symbolsHeld.merge overlaid).1.types.toList =
      [{ name := "flag", type := .bool, source := some "symbols" },
        { name := "size_t", type := .int 8 false, source := some "dwarf" }] ∧
    (symbolsHeld.merge overlaid).2.typesSkipped = 1 ∧
    (symbolsHeld.merge overlaid).1.functions.toList =
      [{ function := initFunction, source := some "symbols" },
        { function := tableFunction, source := some "dwarf" }] ∧
    (symbolsHeld.merge overlaid).2.functionsSkipped = 1 ∧
    (symbolsHeld.merge overlaid).1.source = some "btf" := by
  obtain ⟨htypes, hfunctions, hsource, -⟩ := isMerge_of_held held_symbolsHeld held_overlaid
  refine ⟨held_symbolsHeld, held_overlaid, ?_, ?_, ?_, ?_, hsource⟩
  · rw [htypes.entries, KeyedList.keys, toList_types_symbolsHeld, toList_types_overlaid]
    rfl
  · rw [htypes.skipped_eq, KeyedList.keys, toList_types_symbolsHeld, toList_types_overlaid]
    rfl
  · rw [hfunctions.entries, KeyedList.keys, toList_functions_symbolsHeld,
      toList_functions_overlaid]
    rfl
  · rw [hfunctions.skipped_eq, KeyedList.keys, toList_functions_symbolsHeld,
      toList_functions_overlaid]
    rfl

end Collector

end DebugCatalog
