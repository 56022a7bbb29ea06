import DebugCatalog.Proofs.Store.RoundTrip
import DebugCatalog.Store.Known

/-!
# Runs recorded one after the other

`Store.Recorded s rs ids s'` says that the runs `rs` were recorded in `s` one after
the other, got the numbers `ids`, and left `s'`.

* `loadFindings_of_recordRun_of_ne`: what can be loaded for a run does not change when
  other runs are recorded.
* `Recorded.exists_rows`: the table of runs has the new ones at its end.
* `Recorded.exists_loaded`: what was recorded can be loaded in the end, entry by entry.
-/

namespace DebugCatalog

namespace Store

variable {s s' : Store} {id : Int} {r : RunRecord} {c : Collector}

/-- A run that the store had is loaded as before. -/
theorem loadFindings_of_recordRun_of_ne (h : s.recordRun r c = .ok (s', id)) {other : Int}
    {run : StoredRun} (hrun : s.run? other = some run) :
    s'.run? other = some run ∧ s'.loadFindings other = s.loadFindings other := by
  obtain ⟨noted, hnoted, hwritten⟩ := recordRun_eq_ok_iff.1 h
  have hne : other ≠ id := by
    rintro rfl
    rw [run?_eq_none_of_insertRun hnoted] at hrun
    cases hrun
  have hrun' : noted.run? other = some run := by
    rw [run?_of_insertRun hnoted, if_neg hne, hrun]
  obtain ⟨htypes, hfunctions, hparameters⟩ := tables_of_insertRun hnoted
  obtain ⟨ts, fs, ps, hts, hfs, hps⟩ := exists_tables_of_writeFindings hwritten
  obtain ⟨htypesOf, hfunctionsOf, hparametersOf⟩ := rowsOf_of_writeFindings_of_ne hwritten hne
  constructor
  · rw [run?, runs_of_writeFindings hwritten]
    exact hrun'
  · rw [loadFindings_of_writeFindings hrun' hwritten, htypesOf, hfunctionsOf, hparametersOf,
      loadFindings_eq_assemble hrun (htypes ▸ hts) (hfunctions ▸ hfs) (hparameters ▸ hps),
      typesOf, functionsOf, parametersOf, htypes, hfunctions, hparameters, typesOf, functionsOf,
      parametersOf]

theorem run?_of_recordRun (h : s.recordRun r c = .ok (s', id)) :
    s'.run? id = some (.ofRecord r) := by
  obtain ⟨noted, hnoted, hwritten⟩ := recordRun_eq_ok_iff.1 h
  rw [run?, runs_of_writeFindings hwritten]
  exact (run?_of_insertRun hnoted id).trans (if_pos rfl)

/-- Runs recorded one after the other, and the numbers they got. -/
inductive Recorded : Store → List (RunRecord × Collector) → List Int → Store → Prop
  | nil (s : Store) : Recorded s [] [] s
  | cons {s noted s' : Store} {r : RunRecord} {c : Collector} {id : Int}
      {rs : List (RunRecord × Collector)} {ids : List Int} (h : s.recordRun r c = .ok (noted, id))
      (hrest : Recorded noted rs ids s') : Recorded s ((r, c) :: rs) (id :: ids) s'

namespace Recorded

variable {rs : List (RunRecord × Collector)} {ids : List Int}

theorem reached (h : Recorded s rs ids s') (hs : s.Reached) : s'.Reached := by
  induction h with
  | nil s => exact hs
  | cons h _ ih => exact ih (.recordRun hs h)

theorem binaries_eq (h : Recorded s rs ids s') : s'.binaries = s.binaries := by
  induction h with
  | nil s => rfl
  | cons h _ ih => exact ih.trans (binaries_of_recordRun h)

/-- Runs that the store had are loaded as before. -/
theorem loadFindings_of_known (h : Recorded s rs ids s') {other : Int} {run : StoredRun}
    (hrun : s.run? other = some run) :
    s'.loadFindings other = s.loadFindings other := by
  induction h with
  | nil s => rfl
  | cons h _ ih =>
    obtain ⟨hrun', hload⟩ := loadFindings_of_recordRun_of_ne h hrun
    exact (ih hrun').trans hload

/-- The new runs are at the end of the table, under their numbers. -/
theorem exists_rows (h : Recorded s rs ids s') {t : Numbered StoredRun} (ht : s.runs = some t) :
    ∃ t', s'.runs = some t' ∧
      t'.rows = t.rows ++ ids.zip (rs.map fun r => StoredRun.ofRecord r.1) := by
  induction h generalizing t with
  | nil s => exact ⟨t, ht, by rw [List.map_nil, List.zip_nil_left, List.append_nil]⟩
  | cons h _ ih =>
    obtain ⟨noted, hnoted, hwritten⟩ := recordRun_eq_ok_iff.1 h
    obtain ⟨u, hu, -, rfl, rfl⟩ := insertRun_eq_ok_iff.1 hnoted
    obtain rfl := Option.some.inj (hu.symm.trans ht)
    obtain ⟨t', ht', hrows⟩ := ih (runs_of_writeFindings hwritten)
    refine ⟨t', ht', ?_⟩
    rw [hrows, Numbered.rows_push, List.append_assoc]
    rfl

/-- What was recorded can be loaded in the end, if no type is too deep. -/
theorem exists_loaded (h : Recorded s rs ids s') (hs : s.Reached)
    (hsound : ∀ r ∈ rs, r.2.Sound) (hshallow : ∀ r ∈ rs, r.2.IsShallow) :
    ∃ loaded, ids.mapM s'.loadFindings = .ok loaded ∧
      List.Forall₂ (fun l r => l.CreditedTo r.1.parser r.2) loaded rs := by
  induction h with
  | nil s => exact ⟨[], rfl, .nil⟩
  | @cons s noted s' r c id rs ids h hrest ih =>
    obtain ⟨hc, hsound⟩ := List.forall_mem_cons.1 hsound
    obtain ⟨hcshallow, hshallow⟩ := List.forall_mem_cons.1 hshallow
    obtain ⟨rest, hload, hrest'⟩ := ih (.recordRun hs h) hsound hshallow
    obtain ⟨first, hassemble, -, hcredited⟩ := assemble_ofCollector hc hcshallow id r.parser
    have hfirst : s'.loadFindings id = .ok first := by
      rw [hrest.loadFindings_of_known (run?_of_recordRun h),
        hs.intact.loadFindings_recordRun hc h, hassemble]
    refine ⟨first :: rest, ?_, .cons hcredited hrest'⟩
    rw [List.mapM_cons, hfirst, hload]
    rfl

end Recorded

end Store

end DebugCatalog
