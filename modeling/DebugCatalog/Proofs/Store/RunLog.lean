import DebugCatalog.Proofs.Store.Calls
import DebugCatalog.Proofs.Store.Chronicle

/-!
# Runs that are listed

A run is stored with its status as a text and its counts as signed words, and the call that
notes it may fail: by itself, or because what surrounds the database breaks it off in its midst
(`RunCall`).  `listRuns_of_calls` says that the list of runs has the records of the calls that
succeeded, as they were given and in their order, whatever the others did before they failed.

* `listRuns_of_contents`: runs are listed as they were noted, of all binaries or of one.
* `Listed`: after calls that noted `done` the rows are these.  It is kept by a call that
  succeeds (`Listed.perform`), and by one that fails since that leaves the store alone
  (`eq_of_perform_error`).
-/

namespace DebugCatalog

namespace Store

variable {s s' : Store} {id : Int}

/-! ### Reading the table -/

theorem mapM_toRecord (rs : List RunRecord) :
    (rs.map StoredRun.ofRecord).mapM StoredRun.toRecord = .ok rs := by
  rw [mapM_eq_ok_iff, List.forall₂_map_left_iff, List.forall₂_same]
  exact fun r _ => StoredRun.toRecord_ofRecord r

/-- Runs are listed as they were noted. -/
theorem listRuns_of_contents {t : Numbered StoredRun} (ht : s.runs = some t) {rs : List RunRecord}
    (hcontents : t.contents = rs.map StoredRun.ofRecord) :
    s.listRuns none = .ok rs ∧
      ∀ binary, s.listRuns (some binary) = .ok (rs.filter fun r => r.binary == binary) := by
  constructor
  · rw [listRuns, need_eq_ok_iff.2 ht]
    change t.contents.mapM StoredRun.toRecord = _
    rw [hcontents, mapM_toRecord]
  · intro binary
    rw [listRuns, need_eq_ok_iff.2 ht]
    change (t.contents.filter fun r => r.binary == binary).mapM StoredRun.toRecord = _
    rw [hcontents, List.filter_map]
    exact mapM_toRecord (rs.filter fun r => r.binary == binary)

/-! ### Calls that note runs -/

/-- A call that is to note a run, alone or with what it found. -/
inductive RunCall where
  | insert (r : RunRecord)
  | record (r : RunRecord) (c : Collector)
  /-- A call of either kind that is broken off, after any work on the store and for any cause. -/
  | broken (r : RunRecord) (work : Step PUnit) (cause : StoreError)

namespace RunCall

def run : RunCall → RunRecord
  | insert r | record r _ | broken r _ _ => r

def IsBroken : RunCall → Prop
  | insert _ | record _ _ => False
  | broken _ _ _ => True

/-- What a call answers, and the store it leaves.  One that is broken off is rolled back. -/
def perform : RunCall → Store → Except StoreError Int × Store
  | insert r, s => settled s (s.insertRun r)
  | record r c, s => settled s (s.recordRun r c)
  | broken _ work cause, s => transaction (work >>= fun _ => throw cause) s

end RunCall

variable {call : RunCall} {done : List (RunCall × Int)}

theorem transaction_throw_ne_ok (work : Step PUnit) (cause : StoreError) (s s' : Store) (id : Int) :
    transaction (work >>= fun _ => throw cause) s ≠ (.ok id, s') := by
  intro h
  unfold transaction at h
  split at h
  · next hexec =>
    obtain ⟨_, s₁, -, hthrow⟩ := exists_of_exec_bind_ok hexec
    cases hthrow
  · cases h

/-- A call that fails leaves the store alone. -/
theorem eq_of_perform_error {e : StoreError} (h : call.perform s = (.error e, s')) : s' = s := by
  cases call with
  | insert r | record r c => exact eq_of_settled_error h
  | broken r work cause => exact eq_of_transaction_error h

/-- The runs that were noted have the rows of the table. -/
structure Listed (done : List (RunCall × Int)) (s : Store) : Prop where
  reached : s.Reached
  table : ∃ t, s.runs = some t ∧ t.Holds (done.map fun d => (d.2, .ofRecord d.1.run))

theorem listed_fresh : Listed [] fresh :=
  ⟨.fresh, .empty, rfl, .empty⟩

/-- A call that succeeds puts its run at the end of the table, under the next number. -/
theorem runs_of_perform (h : call.perform s = (.ok id, s')) :
    ∃ t, s.runs = some t ∧ s'.runs = some (t.push (.ofRecord call.run)) ∧ id = t.next := by
  cases call with
  | insert r =>
    obtain ⟨t, ht, -, rfl, rfl⟩ := insertRun_eq_ok_iff.1 (settled_eq_ok_iff.1 h)
    exact ⟨t, ht, rfl, rfl⟩
  | record r c =>
    obtain ⟨noted, hnoted, hwritten⟩ := recordRun_eq_ok_iff.1 (settled_eq_ok_iff.1 h)
    obtain ⟨t, ht, -, rfl, rfl⟩ := insertRun_eq_ok_iff.1 hnoted
    exact ⟨t, ht, runs_of_writeFindings hwritten, rfl⟩
  | broken r work cause => exact absurd h (transaction_throw_ne_ok work cause s s' id)

theorem reached_of_perform (hs : s.Reached) (h : call.perform s = (.ok id, s')) : s'.Reached := by
  cases call with
  | insert r => exact .insertRun hs (settled_eq_ok_iff.1 h)
  | record r c => exact .recordRun hs (settled_eq_ok_iff.1 h)
  | broken r work cause => exact absurd h (transaction_throw_ne_ok work cause s s' id)

namespace Listed

theorem perform (h : Listed done s) (hcall : call.perform s = (.ok id, s')) :
    Listed (done ++ [(call, id)]) s' := by
  obtain ⟨t, ht, hholds⟩ := h.table
  obtain ⟨u, hu, hpushed, rfl⟩ := runs_of_perform hcall
  obtain rfl := Option.some.inj (hu.symm.trans ht)
  refine ⟨reached_of_perform h.reached hcall, _, hpushed, ?_⟩
  rw [List.map_append]
  exact hholds.push _

theorem listRuns_eq (h : Listed done s) :
    s.listRuns none = .ok (done.map fun d => d.1.run) ∧
      ∀ binary, s.listRuns (some binary) =
        .ok ((done.map fun d => d.1.run).filter fun r => r.binary == binary) := by
  obtain ⟨t, ht, hholds⟩ := h.table
  refine listRuns_of_contents ht ?_
  rw [Numbered.contents, hholds.rows_eq, List.map_map, List.map_map]
  rfl

theorem pairwise_numbers (h : Listed done s) : (done.map Prod.snd).Pairwise (· < ·) := by
  obtain ⟨t, -, hholds⟩ := h.table
  have hincreasing : (t.rows.map Prod.fst).Pairwise (· < ·) := List.pairwise_map.2 t.increasing
  rwa [hholds.rows_eq, List.map_map] at hincreasing

theorem exists_insertRun_iff (h : Listed done s) (r : RunRecord) :
    (∃ s' id, s.insertRun r = .ok (s', id)) ↔ (done.length : Int) < Numbered.maxNumber := by
  obtain ⟨t, ht, hholds⟩ := h.table
  have hroom := hholds.next_le_iff
  rw [List.length_map] at hroom
  rw [← hroom]
  constructor
  · rintro ⟨s', id, hnoted⟩
    obtain ⟨u, hu, hnext, -, -⟩ := insertRun_eq_ok_iff.1 hnoted
    obtain rfl := Option.some.inj (hu.symm.trans ht)
    exact hnext
  · exact fun hnext => ⟨_, _, insertRun_eq_ok_iff.2 ⟨t, ht, hnext, rfl, rfl⟩⟩

/-- The tables for findings are there, so nothing else can go wrong. -/
theorem exists_recordRun_iff (h : Listed done s) (r : RunRecord) (c : Collector) :
    (∃ s' id, s.recordRun r c = .ok (s', id)) ↔ (done.length : Int) < Numbered.maxNumber := by
  rw [← h.exists_insertRun_iff r]
  constructor
  · rintro ⟨s', id, hrecorded⟩
    obtain ⟨noted, hnoted, -⟩ := recordRun_eq_ok_iff.1 hrecorded
    exact ⟨noted, id, hnoted⟩
  · rintro ⟨noted, id, hnoted⟩
    obtain ⟨ts, fs, ps, hts, hfs, hps⟩ := (Reached.insertRun h.reached hnoted).exists_tables
    exact ⟨_, id, recordRun_eq_ok_iff.2 ⟨noted, hnoted, writeFindings_eq_foldl hts hfs hps id c⟩⟩

/-- Unless it is broken off, a call succeeds as long as there are numbers. -/
theorem isOk_perform_iff (h : Listed done s) (call : RunCall) :
    (∃ id, (call.perform s).1 = .ok id) ↔
      ¬ call.IsBroken ∧ (done.length : Int) < Numbered.maxNumber := by
  cases call with
  | insert r =>
    rw [RunCall.IsBroken, and_iff_right not_false, ← h.exists_insertRun_iff r]
    exact exists_settled_iff
  | record r c =>
    rw [RunCall.IsBroken, and_iff_right not_false, ← h.exists_recordRun_iff r c]
    exact exists_settled_iff
  | broken r work cause =>
    refine iff_of_false ?_ fun hcall => hcall.1 trivial
    rintro ⟨id, hid⟩
    exact transaction_throw_ne_ok work cause s _ id (Prod.ext hid rfl)

end Listed

theorem listed_callAll (calls : List RunCall) :
    Listed (succeeded (callAll RunCall.perform calls fresh).1)
      (callAll RunCall.perform calls fresh).2 :=
  (callAll_induct (fun h hcall => h.perform hcall)
    (fun h hcall => eq_of_perform_error hcall ▸ h) listed_fresh calls :)

/-- **Runs are listed as they were noted.**  After any calls in a new store, with any of them
broken off, the list of runs has the records of the calls that succeeded, in their order, and the
list for a binary those of them that name it.  Their numbers increase.

A call fails only if it is broken off or if there are no more numbers. -/
theorem listRuns_of_calls (calls : List RunCall) : ∃ log s noted,
    callAll RunCall.perform calls fresh = (log, s) ∧
      noted = (succeeded log).map (fun done => done.1.run) ∧
      s.listRuns none = .ok noted ∧
      (∀ binary, s.listRuns (some binary) = .ok (noted.filter fun r => r.binary == binary)) ∧
      ((succeeded log).map Prod.snd).Pairwise (· < ·) ∧
      ∀ earlier call answer later, log = earlier ++ (call, answer) :: later →
        ((∃ id, answer = .ok id) ↔
          ¬ call.IsBroken ∧ ((succeeded earlier).length : Int) < Numbered.maxNumber) := by
  have hlisted := listed_callAll calls
  obtain ⟨hall, hone⟩ := hlisted.listRuns_eq
  refine ⟨_, _, _, rfl, rfl, hall, hone, hlisted.pairwise_numbers, ?_⟩
  intro earlier call answer later hlog
  obtain ⟨before, rfl, rfl⟩ := exists_of_callAll hlog
  exact (listed_callAll before).isOk_perform_iff call

/-- A run with the largest counts, and why it failed. -/
def largestRun : RunRecord :=
  { lastRun with
    status := .failed
    typesAdded := 0xffffffffffffffff
    functionsAdded := 0xffffffffffffffff
    message := some "" }

/-- A run over another binary. -/
def brokenRun : RunRecord :=
  { lastRun with binary := "driver" }

/-- The call in the middle has noted its run when it is broken off. -/
theorem listRuns_of_calls_broken : ∃ log s,
    callAll RunCall.perform [.insert largestRun,
      .broken brokenRun (addRun brokenRun >>= fun id => writeRows id .empty) .noMoreNumbers,
      .record lastRun .empty] fresh = (log, s) ∧
    s.listRuns none = .ok [largestRun, lastRun] ∧ s.listRuns (some "driver") = .ok [] := by
  obtain ⟨log, s, noted, hcalls, hnoted, hall, hone, -⟩ := listRuns_of_calls [.insert largestRun,
    .broken brokenRun (addRun brokenRun >>= fun id => writeRows id .empty) .noMoreNumbers,
    .record lastRun .empty]
  cases hcalls
  cases hnoted
  exact ⟨_, _, rfl, hall, hone "driver"⟩

end Store

end DebugCatalog
