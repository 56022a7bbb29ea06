import DebugCatalog.Collector.Listing
import DebugCatalog.Proofs.Collector.Intake

/-!
# Listings by address

A collector holds functions in the order in which they came, and lists them by address.  Addresses
are distinct in it, so there is only one way to do that: the rows depend on which functions there
are, and not on how they came.

* `pairwise_functionRows`: the addresses of the rows go up, as natural numbers.
* `functionRows_congr`: collectors with the same functions have the same rows.
* `functionRows_of_held` says this of whatever collector somebody may hold, and that each row is
  about one function.
-/

namespace DebugCatalog

/-- A row says what there is to say of a function. -/
structure FunctionRow.IsAbout (r : FunctionRow) (e : FunctionEntry) : Prop where
  address : r.address = e.function.address
  name : r.name = e.function.displayName
  fullName : r.fullName = e.function.fullName
  signature : r.signature = e.function.signature.display
  parser : r.parser = e.source

theorem FunctionEntry.isAbout_row (e : FunctionEntry) : e.row.IsAbout e :=
  ⟨rfl, rfl, rfl, rfl, rfl⟩

namespace Collector

variable {c d : Collector}

/-! ### Sorting the rows -/

theorem functionRows_perm (c : Collector) :
    c.functionRows.Perm (c.functions.toList.map FunctionEntry.row) :=
  List.mergeSort_perm _ _

/-- The functions in the order in which they are listed. -/
theorem exists_functionRows_eq (c : Collector) :
    ∃ es : List FunctionEntry, es.Perm c.functions.toList ∧
      c.functionRows = es.map FunctionEntry.row := by
  refine ⟨c.functions.toList.mergeSort fun a b => a.address ≤ b.address,
    List.mergeSort_perm _ _, ?_⟩
  exact (List.map_mergeSort (f := FunctionEntry.row) fun _ _ _ _ => rfl).symm

theorem pairwise_le_functionRows (c : Collector) :
    c.functionRows.Pairwise fun r s => r.address ≤ s.address := by
  have htrans (r s t : FunctionRow) (hrs : decide (r.address ≤ s.address))
      (hst : decide (s.address ≤ t.address)) : decide (r.address ≤ t.address) :=
    decide_eq_true (UInt64.le_trans (of_decide_eq_true hrs) (of_decide_eq_true hst))
  have htotal (r s : FunctionRow) :
      decide (r.address ≤ s.address) || decide (s.address ≤ r.address) := by
    simpa using UInt64.le_total r.address s.address
  exact (List.pairwise_mergeSort htrans htotal _).imp of_decide_eq_true

/-- No two rows have the same address, since no two functions have. -/
theorem Sound.nodup_functionRows (h : c.Sound) :
    (c.functionRows.map FunctionRow.address).Nodup := by
  have haddresses : (c.functionRows.map FunctionRow.address).Perm
      (c.functions.toList.map FunctionEntry.address) := by
    have hperm := c.functionRows_perm.map FunctionRow.address
    rwa [List.map_map] at hperm
  exact haddresses.nodup_iff.2 h.functions.nodup

theorem Sound.pairwise_functionRows (h : c.Sound) :
    c.functionRows.Pairwise fun r s => r.address.toNat < s.address.toNat := by
  have hdistinct := List.pairwise_map.1 h.nodup_functionRows
  refine (c.pairwise_le_functionRows.and hdistinct).imp ?_
  rintro r s ⟨hle, hne⟩
  exact Nat.lt_of_le_of_ne (UInt64.le_iff_toNat_le.1 hle) (mt UInt64.toNat_inj.1 hne)

/-! ### Functions in any order -/

/-- A sound collector has each of its functions once. -/
theorem Sound.functions_perm (hc : c.Sound) (hd : d.Sound)
    (h : ∀ e, e ∈ c.functions.toList ↔ e ∈ d.functions.toList) :
    c.functions.toList.Perm d.functions.toList :=
  (List.perm_ext_iff_of_nodup hc.functions.nodup.of_map hd.functions.nodup.of_map).2 h

/-- Rows that are sorted strictly are determined by what they are. -/
theorem Sound.functionRows_congr (hc : c.Sound) (hd : d.Sound)
    (h : ∀ e, e ∈ c.functions.toList ↔ e ∈ d.functions.toList) :
    c.functionRows = d.functionRows := by
  have hperm : c.functionRows.Perm d.functionRows :=
    c.functionRows_perm.trans (((hc.functions_perm hd h).map _).trans d.functionRows_perm.symm)
  refine hperm.eq_of_pairwise ?_ hc.pairwise_functionRows hd.pairwise_functionRows
  intro r s _ _ hrs hsr
  exact absurd hrs (Nat.lt_asymm hsr)

/-- **Listings are canonical.**  Whatever collector somebody holds, there is one row for each
function, with what there is to say of it, and the rows go up by address.  Collectors that hold
the same functions from the same parsers have the same rows, in whatever order the functions
came. -/
theorem functionRows_of_held (hc : c.Held) :
    (∃ es : List FunctionEntry, es.Perm c.functions.toList ∧
      List.Forall₂ FunctionRow.IsAbout c.functionRows es) ∧
    c.functionRows.Pairwise (fun r s => r.address.toNat < s.address.toNat) ∧
    ∀ d : Collector, d.Held → (∀ e, e ∈ c.functions.toList ↔ e ∈ d.functions.toList) →
      c.functionRows = d.functionRows := by
  refine ⟨?_, hc.sound.pairwise_functionRows, fun d hd => hc.sound.functionRows_congr hd.sound⟩
  obtain ⟨es, hperm, hrows⟩ := c.exists_functionRows_eq
  refine ⟨es, hperm, ?_⟩
  rw [hrows, List.forall₂_map_left_iff, List.forall₂_same]
  exact fun e _ => e.isAbout_row

/-- A function at an address that is negative when read as signed. -/
def kernelFunction : FunctionRecord :=
  FunctionRecord.new "panic" "" "panic" 0xffffffff80000000 none []

/-- Two functions found in either order are listed alike, by unsigned addresses. -/
theorem functionRows_of_held_eitherOrder : ∃ c d : Collector,
    c = collected "dwarf" [.function initFunction, .function kernelFunction] ∧
    d = collected "dwarf" [.function kernelFunction, .function initFunction] ∧
    d.functions.toList ≠ c.functions.toList ∧ d.functionRows = c.functionRows ∧
    c.functionRows.map FunctionRow.address = [16, 0xffffffff80000000] := by
  let early : FunctionEntry := { function := initFunction, source := some "dwarf" }
  let late : FunctionEntry := { function := kernelFunction, source := some "dwarf" }
  have hc : (collected "dwarf"
      [.function initFunction, .function kernelFunction]).functions.toList = [early, late] :=
    toList_functions_collected _ _
  have hd : (collected "dwarf"
      [.function kernelFunction, .function initFunction]).functions.toList = [late, early] :=
    toList_functions_collected _ _
  obtain ⟨-, -, hcongr⟩ := functionRows_of_held
    (held_collected "dwarf" [.function kernelFunction, .function initFunction])
  refine ⟨_, _, rfl, rfl, ?_, hcongr _ (held_collected _ _) fun e => ?_, ?_⟩
  · rw [hc, hd]
    decide
  · rw [hc, hd, List.Perm.mem_iff (List.Perm.swap early late [])]
  · rw [functionRows, hc, List.mergeSort_of_pairwise (by decide)]
    rfl

end Collector

end DebugCatalog
