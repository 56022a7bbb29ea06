import DebugCatalog.Proofs.Steps
import DebugCatalog.Proofs.Store.RoundTrip

/-!
# Writing in a transaction

`Store.recordRun` and `Store.writeFindings` give no store back when they fail.  Here
is why that is right.  A database runs them statement by statement, and what was
written before a statement fails is still there: `Store.recordRows` and
`Store.writeRows` are made of steps that keep the store when they fail.
Such a run may draw a number for the run and write its types, and then fail because
the table of functions is missing (`exec_writeRows`).

A transaction takes all this back (`Store.transaction`), and with it the two are what
the store gives back or keeps (`transaction_recordRows`, `transaction_writeRows`).
That a rollback restores every table and every counter is the one thing assumed.
-/

namespace DebugCatalog

namespace Store

/-! ### Steps of a transaction -/

/-- A step that may fail.  What was written before stays. -/
abbrev Step := ExceptT StoreError (StateM Store)

/-- Runs the steps, and rolls back to the beginning where one fails. -/
def transaction {α : Type} (x : Step α) (s : Store) : Except StoreError α × Store :=
  match exec x s with
  | (.ok a, s') => (.ok a, s')
  | (.error e, _) => (.error e, s)

def hasTable (s : Store) : StoreTable → Bool
  | .binaries => s.binaries.isSome
  | .runs => s.runs.isSome
  | .types => s.types.isSome
  | .functions => s.functions.isSome
  | .parameters => s.parameters.isSome

/-- A statement is prepared before it is run, and its table must be there then. -/
def prepare (table : StoreTable) : Step Unit := do
  if !(← get).hasTable table then throw (.missingTable table)

def putType (s : Store) (t : StoredType) : Store :=
  { s with types := s.types.map fun rows => replaceRow StoredType.key rows t }

def putFunction (s : Store) (f : StoredFunction) : Store :=
  { s with functions := s.functions.map fun rows => replaceRow StoredFunction.key rows f }

def putParameter (s : Store) (p : StoredParameter) : Store :=
  { s with parameters := s.parameters.map fun rows => replaceRow StoredParameter.key rows p }

/-- The row of a run, and its number. -/
def addRun (r : RunRecord) : Step Int := do
  prepare .runs
  match (← get).insertRun r with
  | .ok (s, id) =>
    set s
    pure id
  | .error e => throw e

def putTypes (run : Int) (c : Collector) : Step PUnit :=
  c.types.toList.forM fun e => modify fun s => s.putType (.ofEntry run e)

def putFunctions (run : Int) (c : Collector) : Step PUnit :=
  c.functions.toList.forM fun e => do
    modify fun s => s.putFunction (.ofRecord run e.function)
    (StoredParameter.ofRecord run e.function).forM fun p => modify fun s => s.putParameter p

/-- The rows of a collector, one by one.  The statements for functions and parameters
are prepared when the types are written, whether there are functions or not. -/
def writeRows (run : Int) (c : Collector) : Step PUnit := do
  prepare .types
  putTypes run c
  prepare .functions
  prepare .parameters
  putFunctions run c

def recordRows (r : RunRecord) (c : Collector) : Step Int := do
  let id ← addRun r
  writeRows id c
  pure id

/-- What a call brings and leaves, if it leaves the store alone where it fails. -/
def settled {α : Type} (s : Store) : Except StoreError (Store × α) → Except StoreError α × Store
  | .ok (s', a) => (.ok a, s')
  | .error e => (.error e, s)

theorem eq_of_transaction_error {α : Type} {x : Step α} {s s' : Store} {e : StoreError}
    (h : transaction x s = (.error e, s')) : s' = s := by
  unfold transaction at h
  split at h
  · cases h
  · cases h
    rfl

/-! ### Running steps -/

variable {s s' : Store} {run id : Int} {r : RunRecord} {c : Collector}

theorem exec_prepare_of_has {table : StoreTable} (h : s.hasTable table = true) :
    exec (prepare table) s = (.ok ⟨⟩, s) := by
  rw [prepare, exec_bind_ok (exec_get s), h]
  rfl

theorem exec_prepare_of_missing {table : StoreTable} (h : s.hasTable table = false) :
    exec (prepare table) s = (.error (.missingTable table), s) := by
  rw [prepare, exec_bind_ok (exec_get s), h]
  rfl

/-! ### Rows put one by one -/

theorem foldl_putType {rows : List StoredType} (h : s.types = some rows) (l : List StoredType) :
    l.foldl putType s = { s with types := some (l.foldl (replaceRow StoredType.key) rows) } := by
  induction l generalizing s rows with
  | nil => rw [List.foldl_nil, List.foldl_nil, ← h]
  | cons t l ih =>
    have hput : (s.putType t).types = some (replaceRow StoredType.key rows t) := by
      rw [putType, h, Option.map_some]
    rw [List.foldl_cons, List.foldl_cons, ih hput, putType]

theorem foldl_putParameter {rows : List StoredParameter} (h : s.parameters = some rows)
    (l : List StoredParameter) :
    l.foldl putParameter s =
      { s with parameters := some (l.foldl (replaceRow StoredParameter.key) rows) } := by
  induction l generalizing s rows with
  | nil => rw [List.foldl_nil, List.foldl_nil, ← h]
  | cons p l ih =>
    have hput : (s.putParameter p).parameters = some (replaceRow StoredParameter.key rows p) := by
      rw [putParameter, h, Option.map_some]
    rw [List.foldl_cons, List.foldl_cons, ih hput, putParameter]

/-- A function, and then its parameters. -/
def putEntry (run : Int) (s : Store) (e : FunctionEntry) : Store :=
  (StoredParameter.ofRecord run e.function).foldl putParameter
    (s.putFunction (.ofRecord run e.function))

theorem foldl_putEntry {fs : List StoredFunction} {ps : List StoredParameter}
    (hfunctions : s.functions = some fs) (hparameters : s.parameters = some ps)
    (l : List FunctionEntry) :
    l.foldl (putEntry run) s = { s with
      functions := some ((l.map fun e => StoredFunction.ofRecord run e.function).foldl
        (replaceRow StoredFunction.key) fs)
      parameters := some ((l.flatMap fun e => StoredParameter.ofRecord run e.function).foldl
        (replaceRow StoredParameter.key) ps) } := by
  induction l generalizing s fs ps with
  | nil => rw [List.foldl_nil, List.map_nil, List.flatMap_nil, List.foldl_nil, List.foldl_nil,
      ← hfunctions, ← hparameters]
  | cons e l ih =>
    have hput : putEntry run s e = { s with
        functions := some (replaceRow StoredFunction.key fs (.ofRecord run e.function))
        parameters := some ((StoredParameter.ofRecord run e.function).foldl
          (replaceRow StoredParameter.key) ps) } := by
      rw [putEntry, foldl_putParameter (s := s.putFunction _) hparameters, putFunction, hfunctions,
        Option.map_some]
    rw [List.foldl_cons, hput, ih rfl rfl, List.map_cons, List.flatMap_cons, List.foldl_cons,
      List.foldl_append]

/-! ### What a run of the steps leaves -/

/-- The store once the types of a collector are written. -/
def withTypes (s : Store) (run : Int) (c : Collector) : Store :=
  { s with types := s.types.map ((StoredType.ofCollector run c).foldl (replaceRow StoredType.key)) }

theorem exec_addRun (r : RunRecord) (s : Store) :
    exec (addRun r) s = settled s (s.insertRun r) := by
  cases hruns : s.runs with
  | none =>
    rw [addRun, exec_bind_error (exec_prepare_of_missing (by rw [hasTable, hruns]; rfl)), insertRun,
      hruns]
    rfl
  | some t =>
    rw [addRun, exec_bind_ok (exec_prepare_of_has (by rw [hasTable, hruns]; rfl)),
      exec_bind_ok (exec_get s)]
    cases s.insertRun r <;> rfl

theorem exec_putTypes {ts : List StoredType} (h : s.types = some ts) (run : Int) (c : Collector) :
    exec (putTypes run c) s = (.ok ⟨⟩, s.withTypes run c) := by
  rw [putTypes, exec_forM (fun e s => exec_modify (fun s : Store => s.putType (.ofEntry run e)) s),
    withTypes, h, Option.map_some, ← foldl_putType h, StoredType.ofCollector, List.foldl_map]

theorem exec_putFunctions {fs : List StoredFunction} {ps : List StoredParameter}
    (hfunctions : s.functions = some fs) (hparameters : s.parameters = some ps) (run : Int)
    (c : Collector) :
    exec (putFunctions run c) s = (.ok ⟨⟩, { s with
      functions :=
        some ((StoredFunction.ofCollector run c).foldl (replaceRow StoredFunction.key) fs)
      parameters := some
        ((StoredParameter.ofCollector run c).foldl (replaceRow StoredParameter.key) ps) }) := by
  have hput : exec (putFunctions run c) s =
      (.ok ⟨⟩, c.functions.toList.foldl (putEntry run) s) := by
    refine exec_forM ?_ _ _
    intro e s
    rw [exec_bind_ok (exec_modify _ s),
      exec_forM (fun p s => exec_modify (fun s : Store => s.putParameter p) s), putEntry]
  rw [hput, foldl_putEntry hfunctions hparameters]
  rfl

/-- Types are written before the other tables are missed. -/
theorem exec_writeRows (run : Int) (c : Collector) (s : Store) :
    exec (writeRows run c) s =
      match s.types, s.functions, s.parameters with
      | none, _, _ => (.error (.missingTable .types), s)
      | some _, none, _ => (.error (.missingTable .functions), s.withTypes run c)
      | some _, some _, none => (.error (.missingTable .parameters), s.withTypes run c)
      | some ts, some fs, some ps => (.ok ⟨⟩, { s with
          types := some ((StoredType.ofCollector run c).foldl (replaceRow StoredType.key) ts)
          functions :=
            some ((StoredFunction.ofCollector run c).foldl (replaceRow StoredFunction.key) fs)
          parameters := some
            ((StoredParameter.ofCollector run c).foldl (replaceRow StoredParameter.key) ps) }) := by
  cases htypes : s.types with
  | none => exact exec_bind_error (exec_prepare_of_missing (by rw [hasTable, htypes]; rfl))
  | some ts =>
    rw [writeRows, exec_bind_ok (exec_prepare_of_has (by rw [hasTable, htypes]; rfl)),
      exec_bind_ok (exec_putTypes htypes run c)]
    cases hfunctions : s.functions with
    | none =>
      exact exec_bind_error (exec_prepare_of_missing (by rw [hasTable, withTypes, hfunctions]; rfl))
    | some fs =>
      rw [exec_bind_ok (exec_prepare_of_has (by rw [hasTable, withTypes, hfunctions]; rfl))]
      cases hparameters : s.parameters with
      | none =>
        exact exec_bind_error
          (exec_prepare_of_missing (by rw [hasTable, withTypes, hparameters]; rfl))
      | some ps =>
        rw [exec_bind_ok (exec_prepare_of_has (by rw [hasTable, withTypes, hparameters]; rfl)),
          exec_putFunctions (s := s.withTypes run c) hfunctions hparameters, withTypes, htypes,
          Option.map_some]

/-- **Written in a transaction**, the rows are what a write gives back, or nothing. -/
theorem transaction_writeRows (run : Int) (c : Collector) (s : Store) :
    transaction (writeRows run c) s =
      settled s ((s.writeFindings run c).map fun s' => (s', ⟨⟩)) := by
  rw [transaction, exec_writeRows]
  cases htypes : s.types with
  | none =>
    rw [writeFindings, htypes]
    rfl
  | some ts =>
    cases hfunctions : s.functions with
    | none =>
      rw [writeFindings, htypes, hfunctions]
      rfl
    | some fs =>
      cases hparameters : s.parameters with
      | none =>
        rw [writeFindings, htypes, hfunctions, hparameters]
        rfl
      | some ps =>
        rw [writeFindings_eq_foldl htypes hfunctions hparameters]
        rfl

/-- **Recorded in a transaction**, a run is what the store gives back, or nothing: its
number is not used up. -/
theorem transaction_recordRows (r : RunRecord) (c : Collector) (s : Store) :
    transaction (recordRows r c) s = settled s (s.recordRun r c) := by
  cases hnoted : s.insertRun r with
  | error e =>
    have hadd : exec (addRun r) s = (.error e, s) := by rw [exec_addRun, hnoted, settled]
    rw [transaction, recordRows, exec_bind_error hadd, recordRun, hnoted]
    rfl
  | ok noted =>
    obtain ⟨noted, id⟩ := noted
    have hadd : exec (addRun r) s = (.ok id, noted) := by rw [exec_addRun, hnoted, settled]
    have hwritten := transaction_writeRows id c noted
    rw [transaction] at hwritten
    rw [transaction, recordRows, exec_bind_ok hadd, recordRun, hnoted]
    cases hexec : exec (writeRows id c) noted with
    | mk result s' =>
      rw [hexec] at hwritten
      cases hfindings : noted.writeFindings id c with
      | error e =>
        rw [hfindings] at hwritten
        cases result with
        | ok u => cases hwritten
        | error e' =>
          rw [exec_bind_error hexec]
          cases hwritten
          simp only [bind, Except.bind, hfindings, settled]
      | ok written =>
        rw [hfindings] at hwritten
        cases result with
        | error e' => cases hwritten
        | ok u =>
          rw [exec_bind_ok hexec]
          cases hwritten
          simp only [bind, Except.bind, hfindings, settled]
          rfl

/-! ### When a call fails -/

theorem isError_writeFindings_iff (s : Store) (run : Int) (c : Collector) :
    (∃ e, s.writeFindings run c = .error e) ↔
      s.types = none ∨ s.functions = none ∨ s.parameters = none := by
  constructor
  · rintro ⟨e, he⟩
    by_contra hnone
    obtain ⟨htypes, hrest⟩ := not_or.1 hnone
    obtain ⟨hfunctions, hparameters⟩ := not_or.1 hrest
    obtain ⟨ts, hts⟩ := Option.ne_none_iff_exists'.1 htypes
    obtain ⟨fs, hfs⟩ := Option.ne_none_iff_exists'.1 hfunctions
    obtain ⟨ps, hps⟩ := Option.ne_none_iff_exists'.1 hparameters
    rw [writeFindings_eq_foldl hts hfs hps] at he
    cases he
  · intro hnone
    cases hwritten : s.writeFindings run c with
    | error e => exact ⟨e, rfl⟩
    | ok s' =>
      obtain ⟨ts, fs, ps, hts, hfs, hps⟩ := exists_tables_of_writeFindings hwritten
      rw [hts, hfs, hps] at hnone
      rcases hnone with h | h | h <;> cases h

theorem isError_insertRun_iff (hroom : ∀ t, s.runs = some t → t.largest < Numbered.maxNumber) :
    (∃ e, s.insertRun r = .error e) ↔ s.runs = none := by
  constructor
  · rintro ⟨e, he⟩
    by_contra hnone
    obtain ⟨t, ht⟩ := Option.ne_none_iff_exists'.1 hnone
    have hok : s.insertRun r = .ok ({ s with runs := some (t.push (.ofRecord r)) }, t.next) :=
      insertRun_eq_ok_iff.2 ⟨t, ht, Int.add_one_le_of_lt (hroom t ht), rfl, rfl⟩
    rw [hok] at he
    cases he
  · intro hnone
    exact ⟨.missingTable .runs, by rw [insertRun, hnone]; rfl⟩

theorem isError_recordRun_iff (hroom : ∀ t, s.runs = some t → t.largest < Numbered.maxNumber) :
    (∃ e, s.recordRun r c = .error e) ↔
      s.runs = none ∨ s.types = none ∨ s.functions = none ∨ s.parameters = none := by
  rw [← isError_insertRun_iff (r := r) hroom]
  cases hnoted : s.insertRun r with
  | error e =>
    have herror : s.recordRun r c = .error e := by
      rw [recordRun, hnoted]
      rfl
    exact ⟨fun _ => .inl ⟨e, rfl⟩, fun _ => ⟨e, herror⟩⟩
  | ok noted =>
    obtain ⟨noted, id⟩ := noted
    obtain ⟨htypes, hfunctions, hparameters⟩ := tables_of_insertRun hnoted
    rw [← htypes, ← hfunctions, ← hparameters, ← isError_writeFindings_iff noted id c,
      recordRun, hnoted]
    cases hwritten : noted.writeFindings id c with
    | error e =>
      refine ⟨fun _ => .inr ⟨e, rfl⟩, fun _ => ⟨e, ?_⟩⟩
      simp only [bind, Except.bind, hwritten]
    | ok written =>
      constructor
      · rintro ⟨e, he⟩
        simp only [bind, Except.bind, hwritten] at he
        cases he
      · rintro (⟨e, he⟩ | ⟨e, he⟩) <;> cases he

/-- A run that was recorded has the next number, and the other runs stay as they are. -/
theorem runs_of_recordRun (h : s.recordRun r c = .ok (s', id)) : ∃ t t', s.runs = some t ∧
    s'.runs = some t' ∧ t'.rows = t.rows ++ [(id, .ofRecord r)] ∧ (∀ row ∈ t.rows, row.1 < id) ∧
      t.last < id ∧ t'.last = id := by
  obtain ⟨noted, hnoted, hwritten⟩ := recordRun_eq_ok_iff.1 h
  obtain ⟨t, ht, -, rfl, rfl⟩ := insertRun_eq_ok_iff.1 hnoted
  exact ⟨t, _, ht, runs_of_writeFindings hwritten, rfl, fun row hrow => t.lt_next hrow,
    t.last_lt_next, rfl⟩

/-- **Recording a run and writing findings happen as a whole or not at all.**  Statement
by statement in a transaction, they bring what the store gives back, and leave the store
alone where they fail, which is exactly where a table is missing. -/
theorem recordRows_writeRows_atomic (s : Store)
    (hroom : ∀ t, s.runs = some t → t.largest < Numbered.maxNumber) (r : RunRecord) (run : Int)
    (c : Collector) :
    (transaction (recordRows r c) s = settled s (s.recordRun r c) ∧
      transaction (writeRows run c) s =
        settled s ((s.writeFindings run c).map fun s' => (s', ⟨⟩))) ∧
    (∀ e s', transaction (recordRows r c) s = (.error e, s') → s' = s) ∧
    (∀ e s', transaction (writeRows run c) s = (.error e, s') → s' = s) ∧
    ((∃ e, s.recordRun r c = .error e) ↔
      s.runs = none ∨ s.types = none ∨ s.functions = none ∨ s.parameters = none) ∧
    ((∃ e, s.writeFindings run c = .error e) ↔
      s.types = none ∨ s.functions = none ∨ s.parameters = none) ∧
    ∀ s' id, s.recordRun r c = .ok (s', id) → ∃ t t', s.runs = some t ∧ s'.runs = some t' ∧
      t'.rows = t.rows ++ [(id, .ofRecord r)] ∧ (∀ row ∈ t.rows, row.1 < id) ∧
        t.last < id ∧ t'.last = id :=
  ⟨⟨transaction_recordRows r c s, transaction_writeRows run c s⟩,
    fun _ _ h => eq_of_transaction_error h, fun _ _ h => eq_of_transaction_error h,
    isError_recordRun_iff hroom, isError_writeFindings_iff s run c,
    fun _ _ h => runs_of_recordRun h⟩

/-- Without a table for parameters not even a run that found nothing can be recorded. -/
theorem recordRows_atomic_missing_parameters :
    ∃ e, transaction (recordRows lastRun .empty) { fresh with parameters := none } =
      (.error e, { fresh with parameters := none }) := by
  obtain ⟨⟨hrecord, -⟩, -, -, hfails, -, -⟩ := recordRows_writeRows_atomic
    { fresh with parameters := none } (fun t ht => by cases ht; decide) lastRun 1 .empty
  obtain ⟨e, he⟩ := hfails.2 (.inr (.inr (.inr rfl)))
  exact ⟨e, by rw [hrecord, he]; rfl⟩

end Store

end DebugCatalog
