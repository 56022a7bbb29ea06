import DebugCatalog.Proofs.Store.Recording

/-!
# What a store remembers

`Store.Chronicle rs s` says that the runs `rs` were noted or recorded in a new store, one
after the other, and that `s` came out of it.  A run that was only noted found nothing
(`recordRun_empty`).

* `Chronicle.exists_rows`: the rows of the table of runs are these runs in their order, and
  what is loaded of a row is read from the rows of what its run found (`Tells`).  Whatever
  else is to be shown of each row goes by the same induction (`Chronicle.exists_rows_of`).
* `isOk_retell_iff`, `retell_eq_ok`: this succeeds exactly when no type was too deep, and
  then has the entries of the run, credited to its parser.
* `eq_column_of_assemble`: otherwise it fails because of a text, never for want of the run.

Collectors are any that adding, merging and parsing can make, and types may be of any depth.
-/

namespace DebugCatalog

namespace Store

variable {s s' : Store} {id : Int} {r : RunRecord} {c : Collector}

/-! ### Tables stay -/

/-- However a store came about, its tables of findings are there. -/
theorem Reached.exists_tables (h : s.Reached) :
    ∃ ts fs ps, s.types = some ts ∧ s.functions = some fs ∧ s.parameters = some ps := by
  induction h with
  | fresh => exact ⟨[], [], [], rfl, rfl, rfl⟩
  | insertBinary _ h ih =>
    obtain ⟨t, -, -, -, -, rfl⟩ := insertBinary_eq_ok_iff.1 h
    exact ih
  | insertRun _ h ih =>
    obtain ⟨t, -, -, -, rfl⟩ := insertRun_eq_ok_iff.1 h
    exact ih
  | recordRun _ h _ =>
    obtain ⟨noted, -, hwritten⟩ := recordRun_eq_ok_iff.1 h
    rw [eq_of_writeFindings hwritten]
    exact ⟨_, _, _, rfl, rfl, rfl⟩
  | writeFindings _ _ h _ =>
    rw [eq_of_writeFindings h]
    exact ⟨_, _, _, rfl, rfl, rfl⟩
  | reopen hs h ih =>
    rw [hs.intact.migrate] at h
    exact Except.ok.inj h ▸ ih

theorem writeFindings_empty {ts : List StoredType} {fs : List StoredFunction}
    {ps : List StoredParameter} (htypes : s.types = some ts) (hfunctions : s.functions = some fs)
    (hparameters : s.parameters = some ps) (run : Int) : s.writeFindings run .empty = .ok s := by
  rw [writeFindings_eq_foldl htypes hfunctions hparameters]
  obtain ⟨version, binaries, runs, types, functions, parameters⟩ := s
  obtain rfl : types = some ts := htypes
  obtain rfl : functions = some fs := hfunctions
  obtain rfl : parameters = some ps := hparameters
  rfl

/-- A run that is only noted is one that found nothing. -/
theorem recordRun_empty (hs : s.Reached) (r : RunRecord) :
    s.recordRun r .empty = s.insertRun r := by
  rw [recordRun]
  cases hnoted : s.insertRun r with
  | error e => rfl
  | ok noted =>
    obtain ⟨noted, id⟩ := noted
    obtain ⟨ts, fs, ps, hts, hfs, hps⟩ := (Reached.insertRun hs hnoted).exists_tables
    simp only [bind, Except.bind, writeFindings_empty hts hfs hps]

/-! ### What a row tells -/

/-- What is loaded of a run that found `r.2`, under its number. -/
def retell (id : Int) (r : RunRecord × Collector) : Except StoreError Collector :=
  assemble r.1.parser (StoredType.ofCollector id r.2) (StoredParameter.ofCollector id r.2)
    (StoredFunction.ofCollector id r.2)

/-- A row of the table of runs stands for a run. -/
structure Tells (s : Store) (row : Int × StoredRun) (r : RunRecord × Collector) : Prop where
  record : row.2 = .ofRecord r.1
  known : s.run? row.1 = some row.2
  found : s.loadFindings row.1 = retell row.1 r

namespace Tells

variable {row : Int × StoredRun} {told : RunRecord × Collector}

theorem insertBinary (h : Tells s row told) {b : BinaryRecord}
    (hs' : s.insertBinary b = .ok (s', id)) : Tells s' row told := by
  obtain ⟨t, -, -, -, -, rfl⟩ := insertBinary_eq_ok_iff.1 hs'
  exact ⟨h.record, h.known, h.found⟩

theorem recordRun (h : Tells s row told) (hs' : s.recordRun r c = .ok (s', id)) :
    Tells s' row told := by
  obtain ⟨hknown, hfound⟩ := loadFindings_of_recordRun_of_ne hs' h.known
  exact ⟨h.record, hknown, hfound.trans h.found⟩

/-- The row of a run that was just recorded. -/
theorem of_recordRun (hs : s.Intact) (hc : c.Sound) (h : s.recordRun r c = .ok (s', id)) :
    Tells s' (id, .ofRecord r) (r, c) where
  record := rfl
  known := run?_of_recordRun h
  found := hs.loadFindings_recordRun hc h

end Tells

theorem rows_of_recordRun {t : Numbered StoredRun} (ht : s.runs = some t)
    (h : s.recordRun r c = .ok (s', id)) :
    ∃ t', s'.runs = some t' ∧ t'.rows = t.rows ++ [(id, .ofRecord r)] := by
  obtain ⟨noted, hnoted, hwritten⟩ := recordRun_eq_ok_iff.1 h
  obtain ⟨u, hu, -, rfl, rfl⟩ := insertRun_eq_ok_iff.1 hnoted
  obtain rfl := Option.some.inj (hu.symm.trans ht)
  exact ⟨_, runs_of_writeFindings hwritten, rfl⟩

/-- The runs noted and recorded since the store was new, in their order, each with what it
found. -/
inductive Chronicle : List (RunRecord × Collector) → Store → Prop
  | fresh : Chronicle [] fresh
  | insertBinary {rs : List (RunRecord × Collector)} {s s' : Store} {b : BinaryRecord} {id : Int}
      (hs : Chronicle rs s) (h : s.insertBinary b = .ok (s', id)) : Chronicle rs s'
  | insertRun {rs : List (RunRecord × Collector)} {s s' : Store} {r : RunRecord} {id : Int}
      (hs : Chronicle rs s) (h : s.insertRun r = .ok (s', id)) :
      Chronicle (rs ++ [(r, .empty)]) s'
  | recordRun {rs : List (RunRecord × Collector)} {s s' : Store} {r : RunRecord} {c : Collector}
      {id : Int} (hs : Chronicle rs s) (hc : c.Reachable) (h : s.recordRun r c = .ok (s', id)) :
      Chronicle (rs ++ [(r, c)]) s'
  | reopen {rs : List (RunRecord × Collector)} {s s' : Store} (hs : Chronicle rs s)
      (h : s.migrate = .ok s') : Chronicle rs s'

namespace Chronicle

variable {rs : List (RunRecord × Collector)}

theorem reached (h : Chronicle rs s) : s.Reached := by
  induction h with
  | fresh => exact .fresh
  | insertBinary _ h ih => exact .insertBinary ih h
  | insertRun _ h ih => exact .insertRun ih h
  | recordRun _ _ h ih => exact .recordRun ih h
  | reopen _ h ih => exact .reopen ih h

theorem sound (h : Chronicle rs s) : ∀ r ∈ rs, r.2.Sound := by
  induction h with
  | fresh => exact fun r hr => absurd hr List.not_mem_nil
  | insertBinary _ _ ih => exact ih
  | insertRun _ _ ih =>
    exact List.forall_mem_append.2 ⟨ih, List.forall_mem_singleton.2 Collector.sound_empty⟩
  | recordRun _ hc _ ih =>
    exact List.forall_mem_append.2 ⟨ih, List.forall_mem_singleton.2 hc.sound⟩
  | reopen _ _ ih => exact ih

/-- What is so of the row of a run when it is recorded, and stays so, is so of all rows: they
are the runs of the chronicle in their order. -/
theorem exists_rows_of {Holds : Store → Int × StoredRun → RunRecord × Collector → Prop}
    (hbinary : ∀ {s s' : Store} {row told b id}, Holds s row told →
      s.insertBinary b = .ok (s', id) → Holds s' row told)
    (hkept : ∀ {s s' : Store} {row told r c id}, Holds s row told →
      s.recordRun r c = .ok (s', id) → Holds s' row told)
    (hnew : ∀ {s s' : Store} {r c id}, s.Intact → c.Sound → s.recordRun r c = .ok (s', id) →
      Holds s' (id, .ofRecord r) (r, c)) (h : Chronicle rs s) :
    ∃ t, s.runs = some t ∧ List.Forall₂ (Holds s) t.rows rs := by
  have hrecord : ∀ {s s' : Store} {rs t r c id}, s.Intact → c.Sound → s.runs = some t →
      List.Forall₂ (Holds s) t.rows rs → s.recordRun r c = .ok (s', id) →
      ∃ t', s'.runs = some t' ∧ List.Forall₂ (Holds s') t'.rows (rs ++ [(r, c)]) := by
    intro s s' rs t r c id hs hc ht hrows h
    obtain ⟨t', ht', hpushed⟩ := rows_of_recordRun ht h
    refine ⟨t', ht', ?_⟩
    rw [hpushed]
    exact List.rel_append (hrows.imp fun row told hrow => hkept hrow h)
      (.cons (hnew hs hc h) .nil)
  induction h with
  | fresh => exact ⟨.empty, rfl, .nil⟩
  | insertBinary _ h ih =>
    obtain ⟨t, ht, hrows⟩ := ih
    obtain ⟨u, -, -, -, -, rfl⟩ := insertBinary_eq_ok_iff.1 h
    exact ⟨t, ht, hrows.imp fun row told hrow => hbinary hrow h⟩
  | insertRun hs h ih =>
    obtain ⟨t, ht, hrows⟩ := ih
    rw [← recordRun_empty hs.reached] at h
    exact hrecord hs.reached.intact Collector.sound_empty ht hrows h
  | recordRun hs hc h ih =>
    obtain ⟨t, ht, hrows⟩ := ih
    exact hrecord hs.reached.intact hc.sound ht hrows h
  | reopen hs h ih =>
    rw [hs.reached.intact.migrate] at h
    exact Except.ok.inj h ▸ ih

/-- **The rows of the table are the runs of the chronicle**, and each tells what its run
found. -/
theorem exists_rows (h : Chronicle rs s) :
    ∃ t, s.runs = some t ∧ List.Forall₂ (Tells s) t.rows rs :=
  h.exists_rows_of (fun hrow h => hrow.insertBinary h) (fun hrow h => hrow.recordRun h)
    Tells.of_recordRun

end Chronicle

/-! ### What is told -/

/-- A run can be told exactly when no type was too deep for a text. -/
theorem isOk_retell_iff (id : Int) (r : RunRecord × Collector) :
    (∃ c, retell id r = .ok c) ↔ r.2.IsShallow := by
  rw [retell, assemble_isOk_iff, areTexts_ofCollector_iff]

theorem retell_eq_ok {r : RunRecord × Collector} (hsound : r.2.Sound) (hshallow : r.2.IsShallow)
    (id : Int) :
    ∃ c, retell id r = .ok c ∧ c.SameEntries (r.2.creditedTo r.1.parser) := by
  obtain ⟨loaded, hload, -, hcredited⟩ := assemble_ofCollector hsound hshallow id r.1.parser
  exact ⟨loaded, hload, hcredited.sameEntries_creditedTo⟩

/-- What cannot be read of a column is its text. -/
theorem eq_column_of_decodeColumn {column : Nat} {text : String} {e : StoreError}
    (h : decodeColumn column text = .error e) : ∃ fault, e = .column column fault := by
  unfold decodeColumn at h
  split at h
  · cases h
  · next fault _ => exact ⟨.json fault, (Except.error.inj h).symm⟩

theorem eq_column_of_assemble {parser : String} {ts : List StoredType} {ps : List StoredParameter}
    {fs : List StoredFunction} {e : StoreError} (h : assemble parser ts ps fs = .error e) :
    ∃ column fault, e = .column column fault := by
  have hcolumn : ∀ {α : Type} {column : Nat} {text : String} {f : DataType → Except StoreError α},
      (∀ t, ∃ a, f t = .ok a) → (decodeColumn column text >>= f) = .error e →
        ∃ column fault, e = .column column fault := by
    intro α column text f hf h
    rcases eq_error_of_bind h with h | ⟨t, -, h⟩
    · exact ⟨column, eq_column_of_decodeColumn h⟩
    · obtain ⟨a, ha⟩ := hf t
      rw [ha] at h
      cases h
  rw [assemble] at h
  rcases eq_error_of_bind h with h | ⟨types, -, h⟩
  · obtain ⟨t, -, ht⟩ := exists_error_of_mapM h
    exact hcolumn (fun t => ⟨_, rfl⟩) ht
  · rcases eq_error_of_bind h with h | ⟨parameters, -, h⟩
    · obtain ⟨p, -, hp⟩ := exists_error_of_mapM h
      exact hcolumn (fun t => ⟨_, rfl⟩) hp
    · rcases eq_error_of_bind h with h | ⟨functions, -, h⟩
      · obtain ⟨f, -, hf⟩ := exists_error_of_mapM h
        exact hcolumn (fun t => ⟨_, rfl⟩) hf
      · cases h

end Store

end DebugCatalog
