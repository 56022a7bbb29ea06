import DebugCatalog.Proofs.Store.Latest
import DebugCatalog.Proofs.Store.Recording
import DebugCatalog.Proofs.Store.Transaction

/-!
# Writes stay in their run

All runs share their tables, and a row that takes the place of another goes to the end.  Yet
whoever asks for another run, or for another binary, does not notice a write.  Nothing is
assumed of the store here: it may have rows under numbers of no run, rows of any texts, and
tables may be missing.

* `loadFindings_congr`: what is loaded of a run depends on its row in the table of runs and on
  the rows under its number, so far as the tables are there.
* `loadFindings_of_writeFindings_of_ne`, `loadFindings_of_recordRun_of_other`: other runs are
  loaded as before, and fail as before.
* `loadBinary_of_recordRun_of_ne`: so are other binaries, since the runs that count for them
  are the same (`currentRuns_of_recordRun`) and were there before
  (`exists_row_of_mem_currentRuns`).

`reads_of_other_runs` puts this together.
-/

namespace DebugCatalog

theorem mapM_congr {α β ε : Type} {f g : α → Except ε β} {xs : List α} (h : ∀ x ∈ xs, f x = g x) :
    xs.mapM f = xs.mapM g := by
  induction xs with
  | nil => rfl
  | cons x xs ih =>
    obtain ⟨hx, hxs⟩ := List.forall_mem_cons.1 h
    rw [List.mapM_cons, List.mapM_cons, hx, ih hxs]

namespace Store

variable {s s' : Store} {id run other : Int} {r : RunRecord} {c : Collector} {binary : String}

/-! ### Other runs -/

/-- The tables of findings are all there. -/
def HasFindingTables (s : Store) : Prop :=
  ∃ ts fs ps, s.types = some ts ∧ s.functions = some fs ∧ s.parameters = some ps

theorem loadFindings_eq_bind (h : s.HasFindingTables) (run : Int) :
    s.loadFindings run = need .runs s.runs >>= fun t =>
      match t.find? run with
      | some r => assemble r.parser (s.typesOf run) (s.parametersOf run) (s.functionsOf run)
      | none => .error (.unknownRun run) := by
  obtain ⟨ts, fs, ps, htypes, hfunctions, hparameters⟩ := h
  cases hruns : s.runs with
  | none => rw [loadFindings, hruns]; rfl
  | some t =>
    cases hfind : t.find? run with
    | none =>
      simp only [loadFindings, hruns, need, bind, Except.bind, hfind]
    | some r =>
      have hrun : s.run? run = some r := by rw [run?, hruns, Option.bind_some, hfind]
      rw [loadFindings_eq_assemble hrun htypes hfunctions hparameters]
      simp only [need, bind, Except.bind, hfind]

/-- What is loaded of a run is decided by its row and by those under its number. -/
theorem loadFindings_congr (hs : s.HasFindingTables) (hs' : s'.HasFindingTables)
    (hrun : s'.runs.map (fun t => t.find? run) = s.runs.map fun t => t.find? run)
    (hrows : s'.typesOf run = s.typesOf run ∧ s'.functionsOf run = s.functionsOf run ∧
      s'.parametersOf run = s.parametersOf run) :
    s'.loadFindings run = s.loadFindings run := by
  obtain ⟨htypes, hfunctions, hparameters⟩ := hrows
  rw [loadFindings_eq_bind hs, loadFindings_eq_bind hs', htypes, hfunctions, hparameters]
  cases hruns : s.runs with
  | none =>
    rw [hruns, Option.map_none, Option.map_eq_none_iff] at hrun
    rw [hrun]
  | some t =>
    rw [hruns, Option.map_some, Option.map_eq_some_iff] at hrun
    obtain ⟨t', hruns', hfind⟩ := hrun
    rw [hruns']
    simp only [need, bind, Except.bind, hfind]

theorem hasFindingTables_of_writeFindings (h : s.writeFindings run c = .ok s') :
    s.HasFindingTables ∧ s'.HasFindingTables := by
  refine ⟨exists_tables_of_writeFindings h, ?_⟩
  rw [eq_of_writeFindings h]
  exact ⟨_, _, _, rfl, rfl, rfl⟩

/-- A write is not noticed by other runs. -/
theorem loadFindings_of_writeFindings_of_ne (h : s.writeFindings run c = .ok s')
    (hne : other ≠ run) : s'.loadFindings other = s.loadFindings other := by
  obtain ⟨hs, hs'⟩ := hasFindingTables_of_writeFindings h
  refine loadFindings_congr hs hs' ?_ (rowsOf_of_writeFindings_of_ne h hne)
  rw [runs_of_writeFindings h]

/-- Nor is a new run. -/
theorem loadFindings_of_recordRun_of_other (h : s.recordRun r c = .ok (s', id)) (hne : other ≠ id) :
    s'.loadFindings other = s.loadFindings other := by
  obtain ⟨noted, hnoted, hwritten⟩ := recordRun_eq_ok_iff.1 h
  obtain ⟨hs, -⟩ := hasFindingTables_of_writeFindings hwritten
  obtain ⟨t, ht, -, rfl, rfl⟩ := insertRun_eq_ok_iff.1 hnoted
  refine (loadFindings_of_writeFindings_of_ne hwritten hne).trans
    (loadFindings_congr hs hs ?_ ⟨rfl, rfl, rfl⟩)
  rw [ht, Option.map_some, Option.map_some, Numbered.find?_push, if_neg hne]

/-! ### Other binaries -/

/-- The runs that count for another binary are the same when a run is recorded. -/
theorem currentRuns_of_recordRun (h : s.recordRun r c = .ok (s', id)) (hne : binary ≠ r.binary)
    (parser : Option String) : s'.currentRuns binary parser = s.currentRuns binary parser := by
  obtain ⟨t, t', ht, ht', hrows, -⟩ := runs_of_recordRun h
  have hother : ((StoredRun.ofRecord r).binary == binary) = false :=
    beq_eq_false_iff_ne.2 (Ne.symm hne)
  have hpassed : ∀ p : Int × StoredRun → Bool, p (id, .ofRecord r) = false →
      t'.rows.filter p = t.rows.filter p := by
    intro p hp
    rw [hrows, List.filter_append, List.filter_cons_of_neg (Bool.eq_false_iff.1 hp),
      List.filter_nil, List.append_nil]
  cases parser with
  | none =>
    rw [currentRuns, currentRuns, latestRuns, latestRuns, ht, ht']
    simp only [need, bind, Except.bind]
    rw [hpassed _ hother]
  | some parser =>
    rw [currentRuns, currentRuns, latestRun?, latestRun?, ht, ht']
    simp only [need, bind, Except.bind]
    rw [hpassed _ (Bool.and_eq_false_iff.2 (.inl hother))]

theorem lastOfEach_sublist (xs : List (Int × String)) : (lastOfEach xs).Sublist xs := by
  induction xs with
  | nil => exact .slnil
  | cons x xs ih =>
    obtain ⟨id, parser⟩ := x
    rw [lastOfEach]
    split
    · exact ih.cons _
    · exact ih.cons_cons _

/-- The runs that count are runs of the store. -/
theorem exists_row_of_mem_currentRuns {parser : Option String} {ids : List Int}
    {t : Numbered StoredRun} (ht : s.runs = some t) (h : s.currentRuns binary parser = .ok ids)
    (hid : id ∈ ids) : ∃ row ∈ t.rows, row.1 = id := by
  cases parser with
  | none =>
    rw [currentRuns, latestRuns, ht] at h
    obtain rfl := Except.ok.inj h
    obtain ⟨x, hx, rfl⟩ := List.mem_map.1 hid
    obtain ⟨row, hrow, rfl⟩ := List.mem_map.1 ((lastOfEach_sublist _).subset hx)
    exact ⟨row, (List.mem_filter.1 hrow).1, rfl⟩
  | some parser =>
    rw [currentRuns, latestRun?, ht] at h
    obtain rfl := Except.ok.inj h
    obtain ⟨row, hrow, rfl⟩ := Option.map_eq_some_iff.1 (Option.mem_toList.1 hid)
    exact ⟨row, (List.mem_filter.1 (List.mem_of_getLast? hrow)).1, rfl⟩

/-- Another binary is loaded as before when a run is recorded. -/
theorem loadBinary_of_recordRun_of_ne (h : s.recordRun r c = .ok (s', id)) (hne : binary ≠ r.binary)
    (parser : Option String) : s'.loadBinary binary parser = s.loadBinary binary parser := by
  obtain ⟨t, -, ht, -, -, hlt, -⟩ := runs_of_recordRun h
  rw [loadBinary, loadBinary, currentRuns_of_recordRun h hne]
  cases hids : s.currentRuns binary parser with
  | error e => rfl
  | ok ids =>
    have hloaded : ids.mapM s'.loadFindings = ids.mapM s.loadFindings := by
      refine mapM_congr fun other hother => ?_
      obtain ⟨row, hrow, rfl⟩ := exists_row_of_mem_currentRuns ht hids hother
      exact loadFindings_of_recordRun_of_other h (Int.ne_of_lt (hlt row hrow))
    change (ids.mapM s'.loadFindings >>= _) = (ids.mapM s.loadFindings >>= _)
    rw [hloaded]

/-! ### Both kinds of writes -/

/-- **A write is noticed by nobody who asks for another run.**  In whatever state a store is,
recording a run leaves what is loaded of every other run as it is, error or not, and what is
loaded of every other binary, from all parsers or from one.  Writing findings under a number
leaves all other runs as they are, and the table of runs as a whole. -/
theorem reads_of_other_runs (s : Store) (c : Collector) :
    (∀ r s' id, s.recordRun r c = .ok (s', id) →
      (∀ other, other ≠ id → s'.loadFindings other = s.loadFindings other) ∧
      ∀ binary, binary ≠ r.binary → ∀ parser,
        s'.loadBinary binary parser = s.loadBinary binary parser) ∧
    ∀ run s', s.writeFindings run c = .ok s' →
      (∀ other, other ≠ run → s'.loadFindings other = s.loadFindings other) ∧
      (∀ binary, s'.listRuns binary = s.listRuns binary) ∧
      (∀ binary parser, s'.latestRun? binary parser = s.latestRun? binary parser) ∧
      ∀ binary, s'.latestRuns binary = s.latestRuns binary := by
  refine ⟨fun r s' id h => ⟨fun other hne => loadFindings_of_recordRun_of_other h hne,
    fun binary hne parser => loadBinary_of_recordRun_of_ne h hne parser⟩, fun run s' h => ?_⟩
  have hruns := runs_of_writeFindings h
  refine ⟨fun other hne => loadFindings_of_writeFindings_of_ne h hne, fun binary => ?_,
    fun binary parser => ?_, fun binary => ?_⟩
  · rw [listRuns, listRuns, hruns]
  · rw [latestRun?, latestRun?, hruns]
  · rw [latestRuns, latestRuns, hruns]

/-- A store with one run, and with rows under the number that the next run will get.  What
stands for a type there is the text of none. -/
def strayStore : Store where
  version := currentVersion
  binaries := some .empty
  runs := some (Numbered.empty.push (.ofRecord lastRun))
  types := some [{ run := 1, name := "size_t", definition := "" },
    { run := 2, name := "size_t", definition := "" }]
  functions := some []
  parameters := some [{ run := 2, address := -1, position := 7, name := "stray", definition := "" }]

/-- A run is recorded under a number that has rows, and then the first run is written again. -/
theorem reads_of_other_runs_stray : ∃ s s',
    strayStore.recordRun otherRun (Collector.empty.addFunction lastFunction) = .ok (s, 2) ∧
    s.loadFindings 1 = strayStore.loadFindings 1 ∧
    s.loadBinary "kernel" none = strayStore.loadBinary "kernel" none ∧
    s.writeFindings 1 (Collector.empty.addFunction lastFunction) = .ok s' ∧
    s'.loadFindings 2 = s.loadFindings 2 ∧ s'.latestRuns "driver" = s.latestRuns "driver" := by
  obtain ⟨s, hrecord⟩ : ∃ s, strayStore.recordRun otherRun
      (Collector.empty.addFunction lastFunction) = .ok (s, 2) := ⟨_, rfl⟩
  obtain ⟨s', hwrite⟩ : ∃ s',
      s.writeFindings 1 (Collector.empty.addFunction lastFunction) = .ok s' := by
    cases hrecord
    exact ⟨_, rfl⟩
  obtain ⟨hruns, hbinaries⟩ := (reads_of_other_runs strayStore _).1 _ _ _ hrecord
  obtain ⟨hothers, -, -, hlatest⟩ := (reads_of_other_runs s _).2 _ _ hwrite
  exact ⟨s, s', hrecord, hruns 1 (by decide), hbinaries "kernel" (by decide) none, hwrite,
    hothers 2 (by decide), hlatest "driver"⟩

end Store

end DebugCatalog
