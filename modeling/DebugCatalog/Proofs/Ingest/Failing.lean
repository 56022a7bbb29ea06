import DebugCatalog.Proofs.Ingest.Reruns
import DebugCatalog.Proofs.Ingest.Stages
import DebugCatalog.Proofs.Store.Transaction

/-!
# Ingests that fail

An ingest in a project that fails leaves the store as it was, or with the row of its binary as
the one thing new (`failedAt_of_run`).  It leaves no run, and none of what its parsers found.

Each run is recorded in a transaction of its own, so why no run of an earlier parser is left needs
a reason.  A run cannot be recorded because a table is missing, or because the numbers are used
up (`unrecorded_of_recordRun`).  Where one was recorded, all tables are there, and they are there
afterwards.  So as long as there are numbers for all of them, either every run is recorded or
the first is not (`Recorded.eq_nil_of_error`).

The store may have any contents, and any of its tables may be missing.
-/

namespace DebugCatalog

namespace Store

variable {s s' : Store} {id run : Int} {ids : List Int} {r : RunRecord} {c : Collector}
  {told : RunRecord × Collector} {rs rest : List (RunRecord × Collector)} {cause : StoreError}

/-! ### Runs that cannot be recorded -/

/-- Why a run cannot be recorded. -/
inductive Unrecorded (s : Store) : StoreError → Prop
  | missingTable {table : StoreTable} (htable : table ≠ .binaries)
      (hmissing : s.hasTable table = false) : Unrecorded s (.missingTable table)
  | noMoreNumbers {t : Numbered StoredRun} (ht : s.runs = some t)
      (hfull : Numbered.maxNumber < t.next) : Unrecorded s .noMoreNumbers

/-- A table that is needed and cannot be had is missing. -/
theorem missingTable_of_need {α : Type} (table : StoreTable) {o : Option α}
    (ho : s.hasTable table = o.isSome) (h : need table o = .error cause) :
    s.hasTable table = false ∧ cause = .missingTable table := by
  obtain ⟨rfl, rfl⟩ := need_eq_error_iff.1 h
  exact ⟨ho, rfl⟩

theorem missingTable_of_writeFindings (h : s.writeFindings run c = .error cause) :
    ∃ table, table ≠ .binaries ∧ s.hasTable table = false ∧ cause = .missingTable table := by
  rw [writeFindings] at h
  rcases eq_error_of_bind h with htypes | ⟨ts, -, h⟩
  · exact ⟨.types, by decide, missingTable_of_need .types rfl htypes⟩
  · rcases eq_error_of_bind h with hfunctions | ⟨fs, -, h⟩
    · exact ⟨.functions, by decide, missingTable_of_need .functions rfl hfunctions⟩
    · rcases eq_error_of_bind h with hparameters | ⟨ps, -, h⟩
      · exact ⟨.parameters, by decide, missingTable_of_need .parameters rfl hparameters⟩
      · cases h

theorem unrecorded_of_insertRun (h : s.insertRun r = .error cause) : s.Unrecorded cause := by
  rcases eq_error_of_bind h with hruns | ⟨t, ht, h⟩
  · obtain ⟨hmissing, rfl⟩ := missingTable_of_need .runs rfl hruns
    exact .missingTable (by decide) hmissing
  · rcases eq_error_of_bind h with hpush | ⟨pushed, -, h⟩
    · obtain ⟨hfull, rfl⟩ := pushRow_eq_error_iff.1 hpush
      exact .noMoreNumbers (need_eq_ok_iff.1 ht) hfull
    · cases h

/-- Recording makes no table and takes none away. -/
theorem hasTable_of_insertRun (h : s.insertRun r = .ok (s', id)) (table : StoreTable) :
    s'.hasTable table = s.hasTable table := by
  obtain ⟨t, ht, -, -, rfl⟩ := insertRun_eq_ok_iff.1 h
  cases table with
  | runs => exact (congrArg Option.isSome ht).symm
  | binaries | types | functions | parameters => rfl

/-- A run cannot be recorded for want of a table or of numbers, and for nothing else. -/
theorem unrecorded_of_recordRun (h : s.recordRun r c = .error cause) : s.Unrecorded cause := by
  rcases eq_error_of_bind h with hinsert | ⟨⟨noted, id⟩, hnoted, h⟩
  · exact unrecorded_of_insertRun hinsert
  · rcases eq_error_of_bind h with hwrite | ⟨written, -, h⟩
    · obtain ⟨table, htable, hmissing, rfl⟩ := missingTable_of_writeFindings hwrite
      exact .missingTable htable (hasTable_of_insertRun hnoted table ▸ hmissing)
    · cases h

/-- Where a run was recorded, all its tables are there. -/
theorem hasTable_of_recordRun (h : s.recordRun r c = .ok (s', id)) {table : StoreTable}
    (htable : table ≠ .binaries) : s'.hasTable table = true := by
  obtain ⟨noted, hnoted, hwritten⟩ := recordRun_eq_ok_iff.1 h
  obtain ⟨t, -, -, -, rfl⟩ := insertRun_eq_ok_iff.1 hnoted
  rw [eq_of_writeFindings hwritten]
  cases table with
  | binaries => exact absurd rfl htable
  | runs | types | functions | parameters => rfl

/-! ### Runs that were recorded before -/

/-- There are numbers for that many runs more. -/
def HasRoom (s : Store) (n : Nat) : Prop :=
  ∀ t, s.runs = some t → t.largest + n ≤ Numbered.maxNumber

namespace Recorded

theorem hasTable (h : Recorded s rs ids s') (hrs : rs ≠ []) {table : StoreTable}
    (htable : table ≠ .binaries) : s'.hasTable table = true := by
  induction h with
  | nil s => exact absurd rfl hrs
  | cons h hrest ih =>
    cases hrest with
    | nil => exact hasTable_of_recordRun h htable
    | cons => exact ih (List.cons_ne_nil _ _)

/-- Each run takes one number. -/
theorem largest_eq (h : Recorded s rs ids s') {t' : Numbered StoredRun} (ht' : s'.runs = some t') :
    ∃ t, s.runs = some t ∧ t'.largest = t.largest + rs.length := by
  induction h with
  | nil s => exact ⟨t', ht', (Int.add_zero _).symm⟩
  | cons h _ ih =>
    obtain ⟨noted, hnoted, hwritten⟩ := recordRun_eq_ok_iff.1 h
    obtain ⟨t, ht, -, -, rfl⟩ := insertRun_eq_ok_iff.1 hnoted
    obtain ⟨t₁, ht₁, hlargest⟩ := ih ht'
    rw [runs_of_writeFindings hwritten] at ht₁
    obtain rfl := Option.some.inj ht₁
    refine ⟨t, ht, ?_⟩
    rw [hlargest, Numbered.largest_push, Numbered.next, List.length_cons]
    omega

/-- As long as there are numbers for all runs, it is the first that cannot be recorded, and for
want of a table. -/
theorem eq_nil_of_error (h : Recorded s rs ids s')
    (hfailed : s'.recordRun told.1 told.2 = .error cause)
    (hroom : cause = .noMoreNumbers → s.HasRoom (rs ++ told :: rest).length) :
    rs = [] ∧ ∃ table, table ≠ .binaries ∧ s.hasTable table = false ∧
      cause = .missingTable table := by
  cases unrecorded_of_recordRun hfailed with
  | @missingTable table htable hmissing =>
    cases h with
    | nil => exact ⟨rfl, table, htable, hmissing, rfl⟩
    | cons h hrest =>
      -- A table that is missing now was there for the run before.
      rw [hasTable (.cons h hrest) (List.cons_ne_nil _ _) htable] at hmissing
      cases hmissing
  | @noMoreNumbers t' ht' hfull =>
    -- Each run before took one number, and there was one for each that was planned.
    obtain ⟨t, ht, hlargest⟩ := h.largest_eq ht'
    have hleft := hroom rfl t ht
    rw [List.length_append, List.length_cons] at hleft
    rw [Numbered.next, hlargest] at hfull
    omega

end Recorded

end Store

namespace Ingest

variable {r : Registry} {defaults : List String} {now : String} {subject : Subject}
  {request : Request} {s : Store} {e : Error}

/-! ### Where an ingest fails -/

/-- Entering a binary leaves all other tables as they are. -/
theorem Entered.hasTable_eq {b known : BinaryRecord} {entered : Store}
    (h : Entered s b known entered) {table : StoreTable} (htable : table ≠ .binaries) :
    entered.hasTable table = s.hasTable table := by
  cases h with
  | known => rfl
  | new =>
    cases table with
    | binaries => exact absurd rfl htable
    | runs | types | functions | parameters => rfl

theorem Entered.hasRoom {b known : BinaryRecord} {entered : Store}
    (h : Entered s b known entered) {n : Nat} (hs : s.HasRoom n) : entered.HasRoom n := by
  cases h with
  | known => exact hs
  | new => exact hs

/-- Where an ingest failed, and what it left of a store. -/
inductive FailedAt (r : Registry) (defaults : List String) (now : String) (subject : Subject)
    (request : Request) (s : Store) : Error → Store → Prop
  /-- There is no image, or no parser to run over it. -/
  | preparing {e : Error} (h : prepare r defaults subject request = .error e) :
      FailedAt r defaults now subject request s e s
  /-- The binary can neither be found nor noted. -/
  | entering {v : Image} {path : String} {parsers : List Parser} {cause : StoreError}
      (hprepare : prepare r defaults subject request = .ok (v, path, parsers))
      (h : NotEntered s (recordFor request v path) cause) :
      FailedAt r defaults now subject request s (.store cause) s
  /-- A table is missing that the first run needs, and its transaction is rolled back. -/
  | recording {v : Image} {path : String} {parsers : List Parser} {known : BinaryRecord}
      {entered : Store} {first : RunRecord × Collector} {rest : List (RunRecord × Collector)}
      {table : StoreTable}
      (hprepare : prepare r defaults subject request = .ok (v, path, parsers))
      (hentered : Entered s (recordFor request v path) known entered)
      (hplan : planned r defaults now subject request = first :: rest)
      (htable : table ≠ .binaries) (hmissing : s.hasTable table = false)
      (hrecord : Store.transaction (Store.recordRows first.1 first.2) entered =
        (.error (.missingTable table), entered)) :
      FailedAt r defaults now subject request s (.store (.missingTable table)) entered

/-- An ingest that stops at a run stops at the first. -/
theorem failedAt_of_stoppedAt {s' : Store} (h : StoppedAt r defaults now subject request s e s')
    (hroom : e = .store .noMoreNumbers →
      s.HasRoom (planned r defaults now subject request).length) :
    FailedAt r defaults now subject request s e s' := by
  cases h with
  | preparing h => exact .preparing h
  | entering hprepare h => exact .entering hprepare h
  | recording hprepare hentered hplan hrecorded hfailed =>
    obtain ⟨rfl, table, htable, hmissing, rfl⟩ := hrecorded.eq_nil_of_error hfailed
      fun hfull => hentered.hasRoom (hplan ▸ hroom (congrArg Error.store hfull))
    cases hrecorded
    refine .recording hprepare hentered hplan htable ?_ ?_
    · rw [← hentered.hasTable_eq htable]
      exact hmissing
    · rw [Store.transaction_recordRows, hfailed]
      rfl

/-- **An ingest that fails leaves no part of a run.**  It leaves the store as it was, and only if
it was the first run that could not be recorded, there may be the row of the binary.  So the
runs and their findings are the same as before, with all their numbers. -/
theorem failedAt_of_run {after : Option Store}
    (h : run r defaults now subject request (some s) = (.error e, after))
    (hroom : e = .store .noMoreNumbers →
      s.HasRoom (planned r defaults now subject request).length) :
    ∃ s', after = some s' ∧ FailedAt r defaults now subject request s e s' ∧
      ((∀ cause, e ≠ .store cause) → s' = s) ∧
      (s' = s ∨ ∃ v path parsers t,
        prepare r defaults subject request = .ok (v, path, parsers) ∧ s.binaries = some t ∧
          (∀ known ∈ t.contents, known.name ≠ (recordFor request v path).name) ∧
          s' = { s with binaries := some (t.push (recordFor request v path)) }) := by
  obtain ⟨s', rfl, hstopped⟩ := stoppedAt_of_run h
  have hfailed := failedAt_of_stoppedAt hstopped hroom
  refine ⟨s', rfl, hfailed, fun hnot => ?_, ?_⟩
  · cases hfailed with
    | preparing => rfl
    | entering => rfl
    | recording => exact absurd rfl (hnot _)
  · cases hfailed with
    | preparing => exact .inl rfl
    | entering => exact .inl rfl
    | recording hprepare hentered =>
      cases hentered with
      | known => exact .inl rfl
      | new ht hnew => exact .inr ⟨_, _, _, _, hprepare, ht, hnew, rfl⟩

/-- Without a table for parameters no run is recorded, and the binary is all that is new. -/
theorem failedAt_of_run_missing_parameters : ∃ s',
    run twoFinders [] "now" (.image emptyImage "/kernel") (emptyRequest [])
        (some { Store.fresh with parameters := none }) =
      (.error (.store (.missingTable .parameters)), some s') ∧
    FailedAt twoFinders [] "now" (.image emptyImage "/kernel") (emptyRequest [])
      { Store.fresh with parameters := none } (.store (.missingTable .parameters)) s' ∧
    s' = { Store.fresh with
      binaries := some (Numbered.empty.push (.ofImage emptyImage "/kernel"))
      parameters := none } := by
  obtain ⟨s', hrun, hnew⟩ : ∃ s',
      run twoFinders [] "now" (.image emptyImage "/kernel") (emptyRequest [])
          (some { Store.fresh with parameters := none }) =
        (.error (.store (.missingTable .parameters)), some s') ∧
      s' = { Store.fresh with
        binaries := some (Numbered.empty.push (.ofImage emptyImage "/kernel"))
        parameters := none } :=
    ⟨_, rfl, rfl⟩
  obtain ⟨left, hleft, hfailed, -, -⟩ := failedAt_of_run hrun nofun
  obtain rfl := Option.some.inj hleft
  exact ⟨s', hrun, hfailed, hnew⟩

end Ingest

end DebugCatalog
