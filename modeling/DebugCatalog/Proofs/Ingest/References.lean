import DebugCatalog.Proofs.Ingest.History
import DebugCatalog.Proofs.Store.References

/-!
# Ingests keep references

No table refuses a row that refers to nothing, and an ingest may stop at any step.  Still, after
any ingests all references lead somewhere and all counts are right: `referential_of_ingested`.

It comes from the order of the steps.  A binary is noted before its first run, a run is recorded
together with what it found or not at all, and the record of a run counts what is in the
collector, where keys are distinct (`Ingested.exists_chronicle`).
-/

namespace DebugCatalog

namespace Ingest

open Store (Chronicle Referential)

variable {s s' : Store}

/-- The record of a run counts what the run found. -/
structure CountsFound (told : RunRecord × Collector) : Prop where
  types : told.1.typesAdded = UInt64.ofNat told.2.typeCount
  functions : told.1.functionsAdded = UInt64.ofNat told.2.functionCount

theorem countsFound_planned {r : Registry} {defaults : List String} {now : String}
    {subject : Subject} {request : Request} :
    ∀ told ∈ planned r defaults now subject request, CountsFound told := by
  intro told htold
  rw [planned] at htold
  split at htold
  · obtain ⟨p, -, rfl⟩ := List.mem_map.1 htold
    exact ⟨rfl, rfl⟩
  · exact absurd htold List.not_mem_nil

theorem knows_of_entered {entered : Store} {name : String} (hs : s.Knows name)
    (h : entered = s ∨ ∃ b id, s.insertBinary b = .ok (entered, id)) : entered.Knows name := by
  rcases h with rfl | ⟨b, id, h⟩
  · exact hs
  · exact hs.insertBinary h

/-- What ingests recorded are runs of known binaries, each with the right counts. -/
theorem Ingested.exists_chronicle (h : Ingested s) : ∃ rs, Chronicle rs s ∧
    (∀ told ∈ rs, s.Knows told.1.binary) ∧ ∀ told ∈ rs, CountsFound told := by
  induction h with
  | fresh => exact ⟨[], .fresh, nofun, nofun⟩
  | @run s s' r defaults now subject request result _ h ih =>
    obtain ⟨rs, hchronicle, hknown, hcounts⟩ := ih
    obtain ⟨_, entered, _, new, ids, hrun, hentered, hrecorded, hplan, hnew, -⟩ :=
      run_planned r defaults now subject request s
    rw [hrun] at h
    cases h
    refine ⟨rs ++ new, ?_, ?_, ?_⟩
    · exact hrecorded.chronicle (chronicle_of_entered hchronicle hentered)
        fun told htold => reachable_planned (hplan.subset htold)
    · refine List.forall_mem_append.2 ⟨fun told htold => ?_, fun told htold => ?_⟩
      · exact (knows_of_entered (hknown told htold) hentered).recorded hrecorded
      · exact (hnew told htold).recorded hrecorded
    · exact List.forall_mem_append.2
        ⟨hcounts, fun told htold => countsFound_planned told (hplan.subset htold)⟩

/-- **After any ingests all references lead somewhere**, and each run has as many types and
functions as its record says. -/
theorem referential_of_ingested (h : Ingested s) : ∃ bs runs ts fs ps,
    s = { version := Store.currentVersion, binaries := some bs, runs := some runs,
          types := some ts, functions := some fs, parameters := some ps } ∧
      Referential bs runs ts fs ps := by
  obtain ⟨rs, hchronicle, hknown, hcounts⟩ := h.exists_chronicle
  obtain ⟨bs, runs, ts, fs, ps, rfl⟩ := h.reached.exists_eq
  exact ⟨bs, runs, ts, fs, ps, rfl, hchronicle.referential_of_tables rfl rfl rfl rfl rfl hknown
    (fun told htold => (hcounts told htold).types) fun told htold => (hcounts told htold).functions⟩

/-- The parser fails after its first function, and a second ingest finds no image. -/
theorem referential_of_ingested_failing : ∃ summary e first last bs runs ts fs ps,
    run { parsers := KeyedList.empty.push failingParser } [] "now" (.image emptyImage "/kernel")
        { path := "/kernel", name := none, parsers := [] } (some Store.fresh) =
      (.ok summary, some first) ∧
      run .empty [] "later" .missing { path := "/initrd", name := none, parsers := [] }
        (some first) = (.error e, some last) ∧
      last = { version := Store.currentVersion, binaries := some bs, runs := some runs,
               types := some ts, functions := some fs, parameters := some ps } ∧
      runs.rows.length = 1 ∧ Referential bs runs ts fs ps := by
  obtain ⟨summary, e, first, last, hrun, hagain, hcount⟩ : ∃ summary e first last,
      run { parsers := KeyedList.empty.push failingParser } [] "now" (.image emptyImage "/kernel")
          { path := "/kernel", name := none, parsers := [] } (some Store.fresh) =
        (.ok summary, some first) ∧
      run .empty [] "later" .missing { path := "/initrd", name := none, parsers := [] }
        (some first) = (.error e, some last) ∧
      last.runCount = 1 := ⟨_, _, _, _, rfl, rfl, rfl⟩
  obtain ⟨bs, runs, ts, fs, ps, hlast, hreferential⟩ :=
    referential_of_ingested (.run (.run .fresh hrun) hagain)
  rw [hlast] at hcount
  exact ⟨summary, e, first, last, bs, runs, ts, fs, ps, hrun, hagain, hlast, hcount, hreferential⟩

end Ingest

end DebugCatalog
