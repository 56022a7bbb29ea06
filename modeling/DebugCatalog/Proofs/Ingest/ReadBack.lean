import DebugCatalog.Proofs.Ingest.Journal
import DebugCatalog.Proofs.Ingest.Selection

/-!
# What an ingest gives back and what is loaded

An ingest merges findings as they are made, and what is loaded of a binary is merged
from the rows of its runs.  `loadBinary_of_run` says that both are the same, for a
binary of which no run was recorded before, if the parsers have different names and
no type is too deep for a text.

The parsers add entries of their own (`Parser.AddsOwn`).  An entry that a parser has merged
is loaded as one of its run, and so comes back under another credit.  They may fail or break
down, and may add entries that others have added.  Each begins with an empty collector, so it
makes no difference whether what they add depends on the collector they are given.
-/

namespace DebugCatalog

namespace Ingest

open Store (Recorded)

variable {s s' : Store}

/-- A store that is made from a new one by ingests, successful or not. -/
inductive Ingested : Store → Prop
  | fresh : Ingested Store.fresh
  | run {s s' : Store} {r : Registry} {defaults : List String} {now : String} {subject : Subject}
      {request : Request} {result : Except Error Summary} (hs : Ingested s)
      (h : run r defaults now subject request (some s) = (result, some s')) : Ingested s'

theorem reached_of_entered {entered : Store} (hs : s.Reached)
    (h : entered = s ∨ ∃ b id, s.insertBinary b = .ok (entered, id)) : entered.Reached := by
  rcases h with rfl | ⟨b, id, h⟩
  · exact hs
  · exact .insertBinary hs h

theorem runs_of_entered {entered : Store}
    (h : entered = s ∨ ∃ b id, s.insertBinary b = .ok (entered, id)) : entered.runs = s.runs := by
  rcases h with rfl | ⟨b, id, h⟩
  · rfl
  · obtain ⟨t, -, -, -, -, rfl⟩ := Store.insertBinary_eq_ok_iff.1 h
    rfl

/-- An ingest does nothing but what a store is used for. -/
theorem Ingested.reached (h : Ingested s) : s.Reached := by
  induction h with
  | fresh => exact .fresh
  | @run s s' r defaults now subject request result _ h ih =>
    obtain ⟨_, entered, stored, rs, ids, hrun, hentered, hrecorded, -⟩ :=
      run_spec r defaults now subject request s
    rw [hrun] at h
    cases h
    exact hrecorded.reached (reached_of_entered ih hentered)

/-- If nobody says which parsers to run, all that accept the image run. -/
theorem eq_parsersFor_of_select {r : Registry} {v : Image} {parsers : List Parser}
    (h : select r [] v [] = .ok parsers) : parsers = r.parsersFor v := by
  rw [select_of_none, atLeastOne] at h
  split at h
  · cases h
  · exact (Except.ok.inj h).symm

/-- **What an ingest gives back is what is loaded of its binary**, entry by entry. -/
theorem loadBinary_of_run (hs : Ingested s) {r : Registry} {defaults : List String} {now : String}
    {v : Image} {path : String} {request : Request} {parsers : List Parser} {summary : Summary}
    (hselect : select r defaults v request.parsers = .ok parsers)
    (hnew : ∀ t, s.runs = some t → ∀ row ∈ t.rows, row.2.binary ≠ request.name.getD v.name)
    (hrun : run r defaults now (.image v path) request (some s) = (.ok summary, some s')) :
    (r.Reachable → defaults = [] → request.parsers = [] → (parsers.map Parser.name).Nodup) ∧
      ((parsers.map Parser.name).Nodup → (∀ p ∈ parsers, p.AddsOwn v) →
        (∀ p ∈ parsers, (p.finding v).collector.IsShallow) →
        s'.loadBinary (request.name.getD v.name) none = .ok summary.collector) := by
  constructor
  · intro hr hdefaults hrequested
    rw [hdefaults, hrequested] at hselect
    rw [eq_parsersFor_of_select hselect]
    exact hr.nodup_parsersFor v
  · intro hnames hown hshallow
    obtain ⟨result, entered, stored, rs, ids, hrun', hentered, hrecorded, hok⟩ :=
      run_spec r defaults now (.image v path) request s
    rw [hrun] at hrun'
    cases hrun'
    obtain ⟨w, recorded, selected, himage, hselected, rfl, hcollector⟩ := hok summary rfl
    cases himage
    rw [hselect] at hselected
    cases hselected
    rw [hcollector]
    refine hrecorded.loadBinary_of_new (reached_of_entered hs.reached hentered) ?_
      (List.forall_mem_map.2 fun p _ => rfl) ?_
      (List.forall_mem_map.2 fun p _ => Collector.sound_finding p v)
      (List.forall_mem_map.2 hshallow)
      (List.forall_mem_map.2 fun p hp => Collector.isFrom_finding (hown p hp))
    · rw [runs_of_entered hentered]
      exact hnew
    · rw [List.map_map]
      exact hnames

/-- A parser that finds the function at the last address and then fails. -/
def failingParser : Parser where
  registration := 0
  name := "symtab"
  behavior :=
    { judge := fun _ => .accepts
      pass := fun _ _ =>
        { additions := [.function Store.lastFunction], ending := .failed "no symbols" } }

theorem loadBinary_of_run_failingParser : ∃ summary s,
    run { parsers := KeyedList.empty.push failingParser } [] "now" (.image emptyImage "/kernel")
        { path := "/kernel", name := none, parsers := [] } (some Store.fresh) =
      (.ok summary, some s) ∧
      s.loadBinary "kernel" none = .ok summary.collector := by
  obtain ⟨summary, s, hrun⟩ : ∃ summary s,
      run { parsers := KeyedList.empty.push failingParser } [] "now" (.image emptyImage "/kernel")
        { path := "/kernel", name := none, parsers := [] } (some Store.fresh) =
      (.ok summary, some s) := ⟨_, _, rfl⟩
  refine ⟨summary, s, hrun, ?_⟩
  have hr : Registry.Reachable { parsers := KeyedList.empty.push failingParser } :=
    .register .empty (Registry.register_of_free KeyedList.sound_empty (by decide)
      (fun p hp => absurd hp List.not_mem_nil) 0 failingParser.behavior)
  obtain ⟨hnames, hload⟩ := loadBinary_of_run .fresh
    (rfl : select _ [] emptyImage [] = .ok [failingParser])
    (fun t ht => by cases ht; exact fun row hrow => absurd hrow List.not_mem_nil) hrun
  have hown : failingParser.AddsOwn emptyImage := ⟨rfl, List.forall_mem_singleton.2 trivial⟩
  refine hload (hnames hr rfl rfl) (List.forall_mem_singleton.2 hown)
    (List.forall_mem_singleton.2 ?_)
  exact ((Collector.isShallow_empty.crediting _).addFunction
    Store.isShallow_lastFunction).crediting _

end Ingest

end DebugCatalog
