import DebugCatalog.Proofs.Ingest.Reruns
import DebugCatalog.Proofs.Ingest.Stages
import DebugCatalog.Proofs.Parser.Accounts
import DebugCatalog.Proofs.Store.Transaction

/-!
# Ingests with and without a store

An ingest in a project notes each finding before it is merged, and that is all it does more
than one without.  `run_of_project` says so: as far as the project does not decide which
parsers run, what was found and what became of it are the same without the project, and in it
there is one run for each parser, under numbers that go up.

Nothing is assumed of the store, which may have any contents, or of the parsers.
-/

namespace DebugCatalog

/-! ### Numbers of recorded runs -/

namespace Store.Recorded

variable {s s' : Store} {rs : List (RunRecord × Collector)} {ids : List Int}

/-- New runs have larger numbers than all runs before. -/
theorem lt_of_mem (h : Recorded s rs ids s') {t : Numbered StoredRun} (ht : s.runs = some t) :
    ∀ id ∈ ids, t.last < id := by
  induction h generalizing t with
  | nil s => exact fun id hid => absurd hid List.not_mem_nil
  | cons h _ ih =>
    obtain ⟨t₀, t₁, ht₀, ht₁, -, -, hlt, hlast⟩ := runs_of_recordRun h
    obtain rfl := Option.some.inj (ht.symm.trans ht₀)
    intro id hid
    rcases List.mem_cons.1 hid with rfl | hid
    · exact hlt
    · exact Int.lt_trans hlt (hlast ▸ ih ht₁ id hid)

theorem pairwise_lt (h : Recorded s rs ids s') : ids.Pairwise (· < ·) := by
  induction h with
  | nil s => exact .nil
  | cons h hrest ih =>
    obtain ⟨t₀, t₁, -, ht₁, -, -, -, hlast⟩ := runs_of_recordRun h
    exact .cons (fun id hid => hlast ▸ hrest.lt_of_mem ht₁ id hid) ih

theorem run?_of_known (h : Recorded s rs ids s') {other : Int} {run : StoredRun}
    (hrun : s.run? other = some run) : s'.run? other = some run := by
  induction h with
  | nil s => exact hrun
  | cons h _ ih => exact ih (loadFindings_of_recordRun_of_ne h hrun).1

/-- Each number is that of the run it was given to. -/
theorem forall₂_run? (h : Recorded s rs ids s') :
    List.Forall₂ (fun id r => s'.run? id = some (.ofRecord r.1)) ids rs := by
  induction h with
  | nil s => exact .nil
  | cons h hrest ih => exact .cons (hrest.run?_of_known (run?_of_recordRun h)) ih

end Store.Recorded

namespace Ingest

open Store (Recorded)

variable {r : Registry} {defaults : List String} {now : String} {subject : Subject}
  {request : Request} {v : Image} {path : String} {parsers : List Parser} {s : Store}
  {summary : Summary}

/-! ### Without a store -/

/-- Without a store, nothing is noted and nothing fails. -/
theorem exec_note_none (name now : String) (f : Finding) (runs : List Int) :
    exec (note name now f) { store := none, runs } = (.ok ⟨⟩, { store := none, runs }) := by
  rw [note, exec_bind_ok (exec_inStore_none _ _ _), exec_modify, List.append_nil]

theorem exec_forM_note_none (name now : String) (v : Image) (parsers : List Parser)
    (runs : List Int) :
    exec (parsers.forM fun p => note name now (p.finding v)) { store := none, runs } =
      (.ok ⟨⟩, { store := none, runs }) := by
  induction parsers with
  | nil => rfl
  | cons p parsers ih => exact (exec_bind_ok (exec_note_none name now (p.finding v) runs)).trans ih

theorem exec_enter_none (b : BinaryRecord) (runs : List Int) :
    exec (enter b) { store := none, runs } = (.ok b, { store := none, runs }) :=
  exec_inStore_none b _ runs

/-! ### Ingests that succeed -/

/-- An ingest into a store that succeeds gives back the runs that it recorded. -/
theorem exists_recorded_of_run {after : Option Store}
    (h : run r defaults now subject request (some s) = (.ok summary, after)) :
    ∃ v path parsers binary entered s' ids,
      prepare r defaults subject request = .ok (v, path, parsers) ∧ after = some s' ∧
      Recorded entered (parsers.map (recordOf (request.name.getD v.name) now v)) ids s' ∧
      summary = summaryOf v parsers binary ids := by
  obtain ⟨v, path, parsers, binary, entered, s', ids, hprepare, hafter, -, hrecorded, hsummary⟩ :=
    exists_stages_of_run h
  exact ⟨v, path, parsers, binary, entered, s', ids, hprepare, hafter, hrecorded, hsummary⟩

/-- An ingest without a store succeeds if it can begin. -/
theorem run_none (hprepare : prepare r defaults subject request = .ok (v, path, parsers)) :
    run r defaults now subject request none =
      (.ok (summaryOf v parsers (recordFor request v path) []), none) := by
  have hexec := exec_action_of_steps hprepare (exec_enter_none _ [])
    (exec_forM_note_none _ now v parsers [])
  unfold exec at hexec
  rw [run, hexec]

theorem runs_of_run_none {left : Option Store}
    (h : run r defaults now subject request none = (.ok summary, left)) : summary.runs = [] := by
  obtain ⟨runs, hexec⟩ := exists_exec_of_run h
  obtain ⟨v, path, parsers, binary, j₁, hprepare, -⟩ := exists_steps_of_exec_action hexec
  rw [run_none hprepare] at h
  cases h
  rfl

/-! ### What a project changes -/

/-- The parsers of a project count only if none were asked for. -/
theorem select_of_requested {names : List String} (h : defaults = [] ∨ names ≠ []) :
    select r defaults v names = select r [] v names := by
  rcases h with rfl | hnames
  · rfl
  · obtain ⟨name, names, rfl⟩ := List.exists_cons_of_ne_nil hnames
    rfl

theorem map_parser_runParsers (parsers : List Parser) (v : Image) :
    (runParsers parsers v).2.map Outcome.parser = parsers.map Parser.name := by
  have hnames : List.Forall₂ (fun p o => Parser.name p = Outcome.parser o) parsers
      (runParsers parsers v).2 := forall₂_runParsersOnto _ v (fun _ _ => rfl) .empty parsers
  have hmap := List.forall₂_map_left_iff.2 (List.forall₂_map_right_iff.2 hnames)
  exact (List.forall₂_eq_eq_eq ▸ hmap :).symm

/-- **A project does not change what is found.**  Unless its configuration decides which parsers
run, an ingest that succeeds in it succeeds without it, with the same entries in the same order
and credit, and with the same outcomes.  In the project each outcome comes with its run, and
the numbers of the runs go up; without it there are no runs. -/
theorem run_of_project (hdefaults : defaults = [] ∨ request.parsers ≠ []) :
    (∀ now path s kept after,
      run r defaults now (.image v path) request (some s) = (.ok kept, after) →
      kept.runs.Pairwise (· < ·) ∧
      List.Forall₂ (fun id o => ∃ row, (after.bind fun t => t.run? id) = some row ∧
        row.binary = request.name.getD v.name ∧ row.parser = o.parser) kept.runs kept.outcomes ∧
      ∀ now' path', ∃ alone, run r [] now' (.image v path') request none = (.ok alone, none) ∧
        kept.collector = alone.collector ∧ kept.outcomes = alone.outcomes) ∧
    ∀ now subject alone left,
      run r [] now subject request none = (.ok alone, left) → alone.runs = [] := by
  refine ⟨?_, fun _ _ _ _ => runs_of_run_none⟩
  intro now path s kept after hkept
  obtain ⟨w, recorded, parsers, binary, entered, s', ids, hprepare, rfl, hrecorded, rfl⟩ :=
    exists_recorded_of_run hkept
  obtain ⟨himage, hselect⟩ := eq_of_prepare hprepare
  cases himage
  refine ⟨hrecorded.pairwise_lt, ?_, fun now' path' => ?_⟩
  · have hruns := List.forall₂_map_right_iff.1 hrecorded.forall₂_run?
    have hnamed : List.Forall₂ (fun id name => ∃ row, s'.run? id = some row ∧
        row.binary = request.name.getD v.name ∧ row.parser = name) ids
        ((runParsers parsers v).2.map Outcome.parser) := by
      rw [map_parser_runParsers, List.forall₂_map_right_iff]
      exact hruns.imp fun id p hrun => ⟨_, hrun, rfl, rfl⟩
    exact List.forall₂_map_right_iff.1 hnamed
  · have halone : prepare r [] (.image v path') request = .ok (v, path', parsers) := by
      rw [select_of_requested hdefaults] at hselect
      rw [prepare, Subject.image?]
      simp only [bind, Except.bind, hselect]
    exact ⟨_, run_none halone, rfl, rfl⟩

/-- Two parsers that find the same function, in a project and without one. -/
theorem run_of_project_twoFinders : ∃ kept s alone,
    run twoFinders [] "now" (.image emptyImage "/kernel") (emptyRequest []) (some Store.fresh) =
      (.ok kept, some s) ∧
    run twoFinders [] "later" (.image emptyImage "kernel") (emptyRequest []) none =
      (.ok alone, none) ∧
    kept.collector = alone.collector ∧ kept.outcomes = alone.outcomes ∧
    kept.runs = [1, 2] ∧ alone.runs = [] := by
  obtain ⟨kept, s, hkept, hruns⟩ : ∃ kept s,
      run twoFinders [] "now" (.image emptyImage "/kernel") (emptyRequest []) (some Store.fresh) =
        (.ok kept, some s) ∧ kept.runs = [1, 2] := ⟨_, _, rfl, rfl⟩
  have hdefaults : ([] : List String) = [] ∨ (emptyRequest []).parsers ≠ [] := .inl rfl
  obtain ⟨hproject, hnone⟩ := run_of_project (r := twoFinders) (v := emptyImage) hdefaults
  obtain ⟨-, -, hsame⟩ := hproject _ _ _ _ _ hkept
  obtain ⟨alone, halone, hcollector, houtcomes⟩ := hsame "later" "kernel"
  exact ⟨kept, s, alone, hkept, halone, hcollector, houtcomes, hruns, hnone _ _ _ _ halone⟩

end Ingest

end DebugCatalog
