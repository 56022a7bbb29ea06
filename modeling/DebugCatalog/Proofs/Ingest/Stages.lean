import DebugCatalog.Ingest.Basic
import DebugCatalog.Proofs.Parser.Hooks
import DebugCatalog.Proofs.Store.Recording

/-!
# The stages of an ingest

An ingest is prepared, enters its binary, and notes what one parser after the other found.  It
goes on to the next stage if the one before succeeded, so what it does to a store can be told from
its result: `exists_stages_of_run` takes an ingest apart that succeeded, and `stoppedAt_of_run`
one that failed.

* `exec_enter_cases`: a binary is found, or becomes the last row, or the store stays as it is.
* `exec_forM_note`: findings are recorded one after the other, up to the first that cannot be.

Nothing is assumed of the store, which may have any contents and miss any table.
-/

namespace DebugCatalog

namespace Ingest

open Store (Recorded)

variable {r : Registry} {defaults : List String} {now : String} {subject : Subject}
  {request : Request} {v : Image} {path : String} {parsers : List Parser} {s s' : Store}
  {j j' : Journal} {summary : Summary} {e : Error}

/-! ### Steps in a project -/

section InStore

variable {α : Type} {absent a : α} {f : Store → Except StoreError (Store × α)} {e : StoreError}

theorem exec_inStore_ok (h : f s = .ok (s', a)) (runs : List Int) :
    exec (inStore absent f) { store := some s, runs } = (.ok a, { store := some s', runs }) := by
  rw [inStore, exec_bind_ok (exec_get _)]
  simp only [h]
  rw [exec_bind_ok (exec_modify _ _), exec_pure]

theorem exec_inStore_error (h : f s = .error e) (runs : List Int) :
    exec (inStore absent f) { store := some s, runs } =
      (.error (.store e), { store := some s, runs }) := by
  rw [inStore, exec_bind_ok (exec_get _)]
  simp only [h]
  rfl

theorem exec_inStore_none (absent : α) (f : Store → Except StoreError (Store × α))
    (runs : List Int) :
    exec (inStore absent f) { store := none, runs } = (.ok absent, { store := none, runs }) := rfl

end InStore

/-! ### Entering a binary -/

/-- The store had the record of a binary, or the new one is its last row now. -/
inductive Entered (s : Store) (b : BinaryRecord) : BinaryRecord → Store → Prop
  | known {t : Numbered BinaryRecord} {known : BinaryRecord} (ht : s.binaries = some t)
      (hknown : known ∈ t.contents) (hname : known.name = b.name) : Entered s b known s
  | new {t : Numbered BinaryRecord} (ht : s.binaries = some t)
      (hnew : ∀ known ∈ t.contents, known.name ≠ b.name) (hroom : t.next ≤ Numbered.maxNumber) :
      Entered s b b { s with binaries := some (t.push b) }

/-- Why the store can have no record of a binary. -/
inductive NotEntered (s : Store) (b : BinaryRecord) : StoreError → Prop
  | missingTable (h : s.binaries = none) : NotEntered s b (.missingTable .binaries)
  | noMoreNumbers {t : Numbered BinaryRecord} (ht : s.binaries = some t)
      (hnew : ∀ known ∈ t.contents, known.name ≠ b.name) (hfull : Numbered.maxNumber < t.next) :
      NotEntered s b .noMoreNumbers

/-- A binary is entered, or the store stays as it is. -/
theorem exec_enter_cases (b : BinaryRecord) (s : Store) (runs : List Int) :
    (∃ known entered, exec (enter b) { store := some s, runs } =
        (.ok known, { store := some entered, runs }) ∧ Entered s b known entered) ∨
      ∃ cause, exec (enter b) { store := some s, runs } =
        (.error (.store cause), { store := some s, runs }) ∧ NotEntered s b cause := by
  cases ht : s.binaries with
  | none =>
    have hfind : s.findBinary b.name = .error (.missingTable .binaries) := by
      rw [Store.findBinary, ht]
      rfl
    exact .inr ⟨_, exec_inStore_error (by rw [hfind]; rfl) runs, .missingTable ht⟩
  | some t =>
    have hlook : s.findBinary b.name =
        .ok (t.contents.find? fun known => known.name == b.name) := by
      rw [Store.findBinary, ht]
      rfl
    cases hfind : t.contents.find? fun known => known.name == b.name with
    | some known =>
      rw [hfind] at hlook
      refine .inl ⟨known, s, exec_inStore_ok (by rw [hlook]; rfl) runs, .known ht ?_ ?_⟩
      · exact List.mem_of_find?_eq_some hfind
      · exact beq_iff_eq.1 (List.find?_some hfind :)
    | none =>
      rw [hfind] at hlook
      have hnew : ∀ known ∈ t.contents, known.name ≠ b.name := fun known hknown hname =>
        List.find?_eq_none.1 hfind known hknown (beq_iff_eq.2 hname)
      by_cases hroom : t.next ≤ Numbered.maxNumber
      · have hinsert := Store.insertBinary_eq_ok_iff.2 ⟨t, ht, hnew, hroom, rfl, rfl⟩
        refine .inl ⟨b, _, exec_inStore_ok ?_ runs, .new ht hnew hroom⟩
        simp only [bind, Except.bind, hlook, hinsert]
      · have hfull := Int.not_le.1 hroom
        have hinsert := Store.insertBinary_of_full ht hnew hfull
        refine .inr ⟨_, exec_inStore_error ?_ runs, .noMoreNumbers ht hnew hfull⟩
        simp only [bind, Except.bind, hlook, hinsert]

namespace Entered

variable {entered : Store} {b known : BinaryRecord}

theorem eq_or_insertBinary (h : Entered s b known entered) :
    entered = s ∨ ∃ b id, s.insertBinary b = .ok (entered, id) := by
  cases h with
  | known => exact .inl rfl
  | new ht hnew hroom =>
    exact .inr ⟨b, _, Store.insertBinary_eq_ok_iff.2 ⟨_, ht, hnew, hroom, rfl, rfl⟩⟩

theorem knows (h : Entered s b known entered) : entered.Knows b.name := by
  cases h with
  | @known t known ht hknown hname => exact ⟨t, ht, known, hknown, hname⟩
  | @new t ht hnew hroom =>
    exact Store.knows_of_insertBinary
      (Store.insertBinary_eq_ok_iff.2 ⟨t, ht, hnew, hroom, rfl, rfl⟩)

end Entered

/-! ### Noting what parsers found -/

theorem exec_note_ok {name now : String} {f : Finding} {id : Int}
    (h : s.recordRun (runRecord name now f) f.collector = .ok (s', id)) (runs : List Int) :
    exec (note name now f) { store := some s, runs } =
      (.ok ⟨⟩, { store := some s', runs := runs ++ [id] }) :=
  (exec_bind_ok (exec_inStore_ok (by rw [h]; rfl) runs)).trans (exec_modify _ _)

theorem exec_note_error {name now : String} {f : Finding} {e : StoreError}
    (h : s.recordRun (runRecord name now f) f.collector = .error e) (runs : List Int) :
    exec (note name now f) { store := some s, runs } =
      (.error (.store e), { store := some s, runs }) :=
  exec_bind_error (exec_inStore_error (by rw [h]; rfl) runs)

/-- What is recorded of a parser. -/
def recordOf (name now : String) (v : Image) (p : Parser) : RunRecord × Collector :=
  (runRecord name now (p.finding v), (p.finding v).collector)

/-- With a store, the findings are recorded one after the other, up to the first that cannot
be recorded. -/
theorem exec_forM_note (name now : String) (v : Image) (parsers : List Parser) (s : Store)
    (runs : List Int) :
    (∃ s' ids, exec (parsers.forM fun p => note name now (p.finding v)) { store := some s, runs } =
        (.ok ⟨⟩, { store := some s', runs := runs ++ ids }) ∧
      Recorded s (parsers.map (recordOf name now v)) ids s') ∨
    ∃ noted told rest s' ids cause,
      parsers.map (recordOf name now v) = noted ++ told :: rest ∧
      exec (parsers.forM fun p => note name now (p.finding v)) { store := some s, runs } =
        (.error (.store cause), { store := some s', runs := runs ++ ids }) ∧
      Recorded s noted ids s' ∧ s'.recordRun told.1 told.2 = .error cause := by
  induction parsers generalizing s runs with
  | nil => exact .inl ⟨s, [], by rw [List.append_nil]; rfl, .nil s⟩
  | cons p parsers ih =>
    -- The first finding ends the run, or the others are recorded in the store that it leaves.
    cases hrecord : s.recordRun (runRecord name now (p.finding v)) (p.finding v).collector with
    | error cause =>
      refine .inr ⟨[], recordOf name now v p, _, s, [], cause, rfl, ?_, .nil s, hrecord⟩
      rw [List.append_nil]
      exact exec_bind_error (exec_note_error hrecord runs)
    | ok recorded =>
      obtain ⟨s₁, id⟩ := recorded
      have hnote := exec_note_ok hrecord runs
      have hruns : ∀ ids, runs ++ id :: ids = runs ++ [id] ++ ids := fun ids => by
        rw [List.append_assoc, List.singleton_append]
      rcases ih s₁ (runs ++ [id]) with ⟨s', ids, hrest, hrecorded⟩ |
        ⟨noted, told, rest, s', ids, cause, hplan, hrest, hrecorded, hfailed⟩
      · refine .inl ⟨s', id :: ids, ?_, .cons hrecord hrecorded⟩
        rw [hruns]
        exact (exec_bind_ok hnote).trans hrest
      · refine .inr ⟨recordOf name now v p :: noted, told, rest, s', id :: ids, cause, ?_, ?_,
          .cons hrecord hrecorded, hfailed⟩
        · rw [List.map_cons, hplan, List.cons_append]
        · rw [hruns]
          exact (exec_bind_ok hnote).trans hrest

/-! ### A whole ingest -/

/-- The record that an ingest has for its binary.  The store may know another. -/
def recordFor (request : Request) (v : Image) (path : String) : BinaryRecord :=
  { BinaryRecord.ofImage v path with name := request.name.getD v.name }

/-- The runs that an ingest is to record: one of each parser that is selected. -/
def planned (r : Registry) (defaults : List String) (now : String) (subject : Subject)
    (request : Request) : List (RunRecord × Collector) :=
  match prepare r defaults subject request with
  | .ok (v, _, parsers) => parsers.map (recordOf (request.name.getD v.name) now v)
  | .error _ => []

theorem planned_of_prepare (h : prepare r defaults subject request = .ok (v, path, parsers)) :
    planned r defaults now subject request =
      parsers.map (recordOf (request.name.getD v.name) now v) := by
  rw [planned, h]

theorem exec_ofExcept_ok {α : Type} (a : α) (j : Journal) :
    exec (MonadExcept.ofExcept (.ok a : Except Error α) : Action α) j = (.ok a, j) := rfl

theorem exec_ofExcept_error {α : Type} (e : Error) (j : Journal) :
    exec (MonadExcept.ofExcept (.error e : Except Error α) : Action α) j = (.error e, j) := rfl

theorem eq_of_prepare {r : Registry} {defaults : List String} {subject : Subject}
    {request : Request} {v : Image} {path : String} {parsers : List Parser}
    (h : prepare r defaults subject request = .ok (v, path, parsers)) :
    subject.image? request.path = .ok (v, path) ∧
      select r defaults v request.parsers = .ok parsers := by
  obtain ⟨⟨w, recorded⟩, himage, h⟩ := exists_of_bind_eq_ok h
  obtain ⟨selected, hselect, h⟩ := exists_of_bind_eq_ok h
  cases h
  exact ⟨himage, hselect⟩

/-- What an ingest gives back that noted its findings and ended with these runs. -/
def summaryOf (v : Image) (parsers : List Parser) (binary : BinaryRecord) (runs : List Int) :
    Summary where
  binary
  collector := (runParsers parsers v).1
  outcomes := (runParsers parsers v).2
  runs

theorem exec_action_of_steps {binary : BinaryRecord} {j₁ : Journal}
    (hprepare : prepare r defaults subject request = .ok (v, path, parsers))
    (henter : exec (enter (recordFor request v path)) j = (.ok binary, j₁))
    (hnote : exec (parsers.forM fun p => note (request.name.getD v.name) now (p.finding v)) j₁ =
      (.ok ⟨⟩, j')) :
    exec (action r defaults now subject request) j =
      (.ok (summaryOf v parsers binary j'.runs), j') := by
  have hrun : exec (runParsersWith (note (request.name.getD v.name) now) parsers v) j₁ =
      (.ok (runParsers parsers v), j') := by
    rw [runParsersWith_eq, exec_bind_ok hnote, exec_pure]
  rw [action, hprepare, exec_bind_ok (exec_ofExcept_ok _ _)]
  exact (exec_bind_ok henter).trans ((exec_bind_ok hrun).trans
    ((exec_bind_ok (exec_get _)).trans (exec_pure _ _)))

/-- An ingest that succeeds took its steps one after the other. -/
theorem exists_steps_of_exec_action
    (h : exec (action r defaults now subject request) j = (.ok summary, j')) :
    ∃ v path parsers binary j₁, prepare r defaults subject request = .ok (v, path, parsers) ∧
      exec (enter (recordFor request v path)) j = (.ok binary, j₁) ∧
      exec (parsers.forM fun p => note (request.name.getD v.name) now (p.finding v)) j₁ =
        (.ok ⟨⟩, j') ∧
      summary = summaryOf v parsers binary j'.runs := by
  rw [action] at h
  cases hprepare : prepare r defaults subject request with
  | error e =>
    rw [hprepare, exec_bind_error (exec_ofExcept_error _ _)] at h
    cases h
  | ok prepared =>
    obtain ⟨v, path, parsers⟩ := prepared
    rw [hprepare, exec_bind_ok (exec_ofExcept_ok _ _)] at h
    obtain ⟨binary, j₁, henter, h⟩ := exists_of_exec_bind_ok h
    obtain ⟨found, j₂, hrun, h⟩ := exists_of_exec_bind_ok h
    rw [runParsersWith_eq] at hrun
    obtain ⟨_, j₃, hnote, hrun⟩ := exists_of_exec_bind_ok hrun
    cases hrun
    cases h
    exact ⟨v, path, parsers, binary, j₁, rfl, henter, hnote, rfl⟩

/-- An ingest that fails does so in one of its stages, and leaves what that stage leaves. -/
theorem exec_action_error_cases {e : Error}
    (h : exec (action r defaults now subject request) j = (.error e, j')) :
    (prepare r defaults subject request = .error e ∧ j' = j) ∨
    ∃ v path parsers, prepare r defaults subject request = .ok (v, path, parsers) ∧
      (exec (enter (recordFor request v path)) j = (.error e, j') ∨
        ∃ binary j₁, exec (enter (recordFor request v path)) j = (.ok binary, j₁) ∧
          exec (parsers.forM fun p => note (request.name.getD v.name) now (p.finding v)) j₁ =
            (.error e, j')) := by
  rw [action] at h
  cases hprepare : prepare r defaults subject request with
  | error e' =>
    rw [hprepare, exec_bind_error (exec_ofExcept_error _ _)] at h
    cases h
    exact .inl ⟨rfl, rfl⟩
  | ok prepared =>
    obtain ⟨v, path, parsers⟩ := prepared
    rw [hprepare, exec_bind_ok (exec_ofExcept_ok _ _)] at h
    refine .inr ⟨v, path, parsers, rfl, ?_⟩
    rcases error_of_exec_bind h with henter | ⟨binary, j₁, henter, h⟩
    · exact .inl henter
    · refine .inr ⟨binary, j₁, henter, ?_⟩
      rcases error_of_exec_bind h with hrun | ⟨found, j₂, -, h⟩
      · rw [runParsersWith_eq] at hrun
        rcases error_of_exec_bind hrun with hnote | ⟨_, j₂, -, hrun⟩
        · exact hnote
        · cases hrun
      · cases h

/-! ### What is done to a store -/

theorem exists_exec_of_run {store after : Option Store} {result : Except Error Summary}
    (h : run r defaults now subject request store = (result, after)) : ∃ runs,
    exec (action r defaults now subject request) { store, runs := [] } =
      (result, { store := after, runs }) := by
  unfold run at h
  cases hexec : exec (action r defaults now subject request) { store, runs := [] } with
  | mk result' j =>
    unfold exec at hexec
    rw [hexec] at h
    cases h
    exact ⟨j.runs, rfl⟩

/-- An ingest into a store that succeeds gives back the record of its binary and the runs that
it recorded. -/
theorem exists_stages_of_run {after : Option Store}
    (h : run r defaults now subject request (some s) = (.ok summary, after)) :
    ∃ v path parsers binary entered s' ids,
      prepare r defaults subject request = .ok (v, path, parsers) ∧ after = some s' ∧
      Entered s (recordFor request v path) binary entered ∧
      Recorded entered (parsers.map (recordOf (request.name.getD v.name) now v)) ids s' ∧
      summary = summaryOf v parsers binary ids := by
  obtain ⟨runs, hexec⟩ := exists_exec_of_run h
  obtain ⟨v, path, parsers, binary, j₁, hprepare, henter, hnote, hsummary⟩ :=
    exists_steps_of_exec_action hexec
  rcases exec_enter_cases (recordFor request v path) s [] with
    ⟨known, entered, hentering, hentered⟩ | ⟨cause, hentering, -⟩
  · rw [henter] at hentering
    cases hentering
    rcases exec_forM_note (request.name.getD v.name) now v parsers entered [] with
      ⟨s', ids, hnoting, hrecorded⟩ | ⟨_, _, _, _, _, _, -, hnoting, -⟩
    · rw [hnote] at hnoting
      cases hnoting
      exact ⟨v, path, parsers, binary, entered, s', ids, hprepare, rfl, hentered, hrecorded,
        hsummary⟩
    · rw [hnote] at hnoting
      cases hnoting
  · rw [henter] at hentering
    cases hentering

/-- The stage at which an ingest stopped, and the store that it left. -/
inductive StoppedAt (r : Registry) (defaults : List String) (now : String) (subject : Subject)
    (request : Request) (s : Store) : Error → Store → Prop
  | preparing {e : Error} (h : prepare r defaults subject request = .error e) :
      StoppedAt r defaults now subject request s e s
  | entering {v : Image} {path : String} {parsers : List Parser} {cause : StoreError}
      (hprepare : prepare r defaults subject request = .ok (v, path, parsers))
      (h : NotEntered s (recordFor request v path) cause) :
      StoppedAt r defaults now subject request s (.store cause) s
  | recording {v : Image} {path : String} {parsers : List Parser} {known : BinaryRecord}
      {entered s' : Store} {noted rest : List (RunRecord × Collector)}
      {told : RunRecord × Collector} {ids : List Int} {cause : StoreError}
      (hprepare : prepare r defaults subject request = .ok (v, path, parsers))
      (hentered : Entered s (recordFor request v path) known entered)
      (hplan : planned r defaults now subject request = noted ++ told :: rest)
      (hrecorded : Recorded entered noted ids s')
      (hfailed : s'.recordRun told.1 told.2 = .error cause) :
      StoppedAt r defaults now subject request s (.store cause) s'

theorem stoppedAt_of_run {after : Option Store}
    (h : run r defaults now subject request (some s) = (.error e, after)) :
    ∃ s', after = some s' ∧ StoppedAt r defaults now subject request s e s' := by
  obtain ⟨runs, hexec⟩ := exists_exec_of_run h
  rcases exec_action_error_cases hexec with
    ⟨hprepare, hj⟩ | ⟨v, path, parsers, hprepare, hstopped⟩
  · cases hj
    exact ⟨s, rfl, .preparing hprepare⟩
  · rcases exec_enter_cases (recordFor request v path) s [] with
      ⟨known, entered, henter, hentered⟩ | ⟨cause, henter, hnot⟩
    · rw [henter] at hstopped
      obtain hstopped | ⟨_, _, hentering, hnote⟩ := hstopped
      · cases hstopped
      · cases hentering
        rcases exec_forM_note (request.name.getD v.name) now v parsers entered [] with
          ⟨s', ids, hall, -⟩ |
          ⟨noted, told, rest, s', ids, cause, hplan, hsome, hrecorded, hfailed⟩
        · rw [hnote] at hall
          cases hall
        · rw [hnote] at hsome
          cases hsome
          rw [← planned_of_prepare hprepare] at hplan
          exact ⟨s', rfl, .recording hprepare hentered hplan hrecorded hfailed⟩
    · rw [henter] at hstopped
      obtain hstopped | ⟨_, _, hentering, -⟩ := hstopped
      · cases hstopped
        exact ⟨s, rfl, .entering hprepare hnot⟩
      · cases hentering

end Ingest

end DebugCatalog
