import DebugCatalog.Proofs.Store.Noting

/-!
# Stores that come about by use

`Store.Reached` are the stores to which a new one can be brought by noting binaries
and runs, writing findings of runs that it has, and opening it again.  In all of
them only runs that the store has have findings (`Reached.intact`).  So a run that
is noted next begins with none (`Intact.hasNoFindings_of_insertRun`).

Nothing is assumed of the collectors that were written before: they may be of any
depth, and may be written over each other.
-/

namespace DebugCatalog

namespace Store

variable {s s' : Store} {id run : Int}

/-- A new store. -/
def fresh : Store :=
  ((blank.upgrade 1).upgrade 2).upgrade 3

theorem migrate_blank : blank.migrate = .ok fresh := rfl

/-- A store that is made from a new one by using it. -/
inductive Reached : Store → Prop
  | fresh : Reached fresh
  | insertBinary {s s' : Store} {b : BinaryRecord} {id : Int} (hs : Reached s)
      (h : s.insertBinary b = .ok (s', id)) : Reached s'
  | insertRun {s s' : Store} {r : RunRecord} {id : Int} (hs : Reached s)
      (h : s.insertRun r = .ok (s', id)) : Reached s'
  | recordRun {s s' : Store} {r : RunRecord} {c : Collector} {id : Int} (hs : Reached s)
      (h : s.recordRun r c = .ok (s', id)) : Reached s'
  | writeFindings {s s' : Store} {run : Int} {r : StoredRun} {c : Collector} (hs : Reached s)
      (hrun : s.run? run = some r) (h : s.writeFindings run c = .ok s') : Reached s'
  | reopen {s s' : Store} (hs : Reached s) (h : s.migrate = .ok s') : Reached s'

/-- What use keeps. -/
structure Intact (s : Store) : Prop where
  version : s.version = currentVersion
  runs : ∃ t, s.runs = some t
  unknown : ∀ run, s.run? run = none → s.HasNoFindings run

theorem intact_fresh : fresh.Intact where
  version := rfl
  runs := ⟨.empty, rfl⟩
  unknown := fun _ _ => ⟨rfl, rfl, rfl⟩

namespace Intact

theorem insertBinary (hs : s.Intact) {b : BinaryRecord} (h : s.insertBinary b = .ok (s', id)) :
    s'.Intact := by
  obtain ⟨t, -, -, -, -, rfl⟩ := insertBinary_eq_ok_iff.1 h
  exact ⟨hs.version, hs.runs, fun run hrun => (hs.unknown run hrun).congr rfl rfl rfl⟩

theorem insertRun (hs : s.Intact) {r : RunRecord} (h : s.insertRun r = .ok (s', id)) :
    s'.Intact := by
  have hrun? := run?_of_insertRun h
  obtain ⟨t, -, -, rfl, rfl⟩ := insertRun_eq_ok_iff.1 h
  refine ⟨hs.version, ⟨_, rfl⟩, fun run hrun => ?_⟩
  rw [hrun?] at hrun
  split at hrun
  · cases hrun
  · exact (hs.unknown run hrun).congr rfl rfl rfl

theorem writeFindings (hs : s.Intact) {r : StoredRun} {c : Collector} (hrun : s.run? run = some r)
    (h : s.writeFindings run c = .ok s') : s'.Intact := by
  constructor
  · rw [eq_of_writeFindings h, ← hs.version]
  · rw [runs_of_writeFindings h]
    exact hs.runs
  · intro other hother
    rw [run?, runs_of_writeFindings h] at hother
    have hne : other ≠ run := by
      rintro rfl
      rw [run?] at hrun
      rw [hrun] at hother
      cases hother
    obtain ⟨htypes, hfunctions, hparameters⟩ := rowsOf_of_writeFindings_of_ne h hne
    have hnone := hs.unknown other hother
    exact ⟨htypes.trans hnone.types, hfunctions.trans hnone.functions,
      hparameters.trans hnone.parameters⟩

/-- A run that is noted next has no findings. -/
theorem hasNoFindings_of_insertRun (hs : s.Intact) {r : RunRecord}
    (h : s.insertRun r = .ok (s', id)) : s'.HasNoFindings id := by
  obtain ⟨htypes, hfunctions, hparameters⟩ := tables_of_insertRun h
  exact (hs.unknown id (run?_eq_none_of_insertRun h)).congr htypes hfunctions hparameters

theorem recordRun (hs : s.Intact) {r : RunRecord} {c : Collector}
    (h : s.recordRun r c = .ok (s', id)) : s'.Intact := by
  obtain ⟨noted, hnoted, hwritten⟩ := recordRun_eq_ok_iff.1 h
  have hrun : noted.run? id = some (.ofRecord r) := by
    rw [run?_of_insertRun hnoted, if_pos rfl]
  exact (hs.insertRun hnoted).writeFindings hrun hwritten

/-- An intact store is opened as it is. -/
theorem migrate (hs : s.Intact) : s.migrate = .ok s := by
  have hversion : s.version = 3 := hs.version
  simp [Store.migrate, hversion, currentVersion]

end Intact

/-- **Only runs that a store has have findings**, however it came about. -/
theorem Reached.intact (h : s.Reached) : s.Intact := by
  induction h with
  | fresh => exact intact_fresh
  | insertBinary _ h ih => exact ih.insertBinary h
  | insertRun _ h ih => exact ih.insertRun h
  | recordRun _ h ih => exact ih.recordRun h
  | writeFindings _ hrun h ih => exact ih.writeFindings hrun h
  | reopen _ h ih =>
    rw [ih.migrate] at h
    exact Except.ok.inj h ▸ ih

end Store

end DebugCatalog
