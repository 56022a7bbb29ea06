import DebugCatalog.Proofs.Store.History

/-!
# What is recorded is loaded

A run that is recorded in a store that came about by use has no findings before,
so what is loaded for it is read from the rows of the collector that was recorded
(`Intact.loadFindings_recordRun`).  `loadFindings_recordRun_iff` puts this together
with what is known of such rows.
-/

namespace DebugCatalog

namespace Store

variable {s s' : Store} {id : Int} {r : RunRecord} {c : Collector}

theorem Intact.loadFindings_recordRun (hs : s.Intact) (hc : c.Sound)
    (h : s.recordRun r c = .ok (s', id)) :
    s'.loadFindings id = assemble r.parser (StoredType.ofCollector id c)
      (StoredParameter.ofCollector id c) (StoredFunction.ofCollector id c) := by
  obtain ⟨noted, hnoted, hwritten⟩ := recordRun_eq_ok_iff.1 h
  have hrun : noted.run? id = some (.ofRecord r) := by
    rw [run?_of_insertRun hnoted, if_pos rfl]
  exact loadFindings_of_write hrun (hs.hasNoFindings_of_insertRun hnoted) hc hwritten

/-- **A run that was recorded can be loaded exactly when no type was too deep**, and then
has the entries that were recorded, in their order and credited to its parser. -/
theorem loadFindings_recordRun_iff (hs : s.Reached) (hc : c.Reachable)
    (h : s.recordRun r c = .ok (s', id)) :
    ((∃ loaded, s'.loadFindings id = .ok loaded) ↔ c.IsShallow) ∧
      ∀ loaded, s'.loadFindings id = .ok loaded →
        loaded.types.toList = c.types.toList.map (TypeEntry.creditedTo r.parser) ∧
          loaded.functions.toList = c.functions.toList.map (FunctionEntry.creditedTo r.parser) := by
  have hload := hs.intact.loadFindings_recordRun hc.sound h
  have hiff : (∃ loaded, s'.loadFindings id = .ok loaded) ↔ c.IsShallow := by
    rw [hload, assemble_isOk_iff, areTexts_ofCollector_iff]
  refine ⟨hiff, fun loaded hloaded => ?_⟩
  obtain ⟨expected, hexpected, -, hcredited⟩ :=
    assemble_ofCollector hc.sound (hiff.1 ⟨loaded, hloaded⟩) id r.parser
  rw [hload, hexpected] at hloaded
  obtain rfl := Except.ok.inj hloaded
  exact ⟨hcredited.types, hcredited.functions⟩

/-- A function at the last address. -/
def lastFunction : FunctionRecord where
  shortName := "idle"
  fullName := "idle(int)"
  rawName := ""
  address := 0xffffffffffffffff
  returnType := .pointer .void 8
  parameters := [("ticks", .int 4 true)]

/-- A run that found the function at the last address. -/
def lastRun : RunRecord where
  binary := "kernel"
  parser := "symtab"
  status := .succeeded
  typesAdded := 0
  functionsAdded := 1
  message := none
  startedAt := "1970-01-01T00:00:00+00:00"
  finishedAt := "1970-01-01T00:00:00+00:00"

theorem isShallow_lastFunction : lastFunction.IsShallow := by
  refine ⟨?_, List.forall_mem_singleton.2 ?_⟩
  · show _ ≤ _
    decide
  · show _ ≤ _
    decide

theorem loadFindings_recordRun_lastFunction : ∃ s id loaded,
    fresh.recordRun lastRun (Collector.empty.addFunction lastFunction) = .ok (s, id) ∧
      s.loadFindings id = .ok loaded ∧
      loaded.functions.toList = [{ function := lastFunction, source := some "symtab" }] := by
  obtain ⟨s, id, hrecord⟩ : ∃ s id,
      fresh.recordRun lastRun (Collector.empty.addFunction lastFunction) = .ok (s, id) :=
    ⟨_, _, rfl⟩
  obtain ⟨hiff, hentries⟩ :=
    loadFindings_recordRun_iff .fresh (.addFunction .empty lastFunction) hrecord
  obtain ⟨loaded, hloaded⟩ :=
    hiff.2 (Collector.isShallow_empty.addFunction isShallow_lastFunction)
  refine ⟨s, id, loaded, hrecord, hloaded, ?_⟩
  rw [(hentries loaded hloaded).2, Collector.addFunction_empty (by decide)]
  rfl

end Store

end DebugCatalog
