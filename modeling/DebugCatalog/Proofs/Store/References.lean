import DebugCatalog.Proofs.Store.Chronicle

/-!
# References between tables

Rows refer to rows of other tables by names and numbers, and no table checks what it is
given.  `Store.Referential` says that all references lead somewhere, and that what is counted is
there:

* binaries have distinct names, and each run names one of them;
* types, functions and parameters are under the number of a run;
* parameters are at the address of a function of the same run, and those of one function have
  the positions `0`, `1`, `2` and so on;
* each run has as many types and functions as its record says.

In a chronicle each row of a run comes with exactly what the run found (`Chronicle.exists_holds`),
since its number was never used before.  So what is left to show are the names of binaries
and the counts, which a record may have wrong: `Chronicle.referential_of_tables` takes them as
given.
-/

namespace DebugCatalog

/-- A count as it is stored in a signed column.  It can be read back as a word, and it is the
count itself unless there is no signed word for it. -/
def StoredCount (stored : Int) (n : Nat) : Prop :=
  Word.ofSigned stored = UInt64.ofNat n ∧ (n < Word.half → stored = n)

theorem storedCount_toSigned (n : Nat) : StoredCount (Word.toSigned (UInt64.ofNat n)) n := by
  refine ⟨Word.ofSigned_toSigned _, fun hn => ?_⟩
  have hsmall : n < 2 ^ 64 := by
    unfold Word.half at hn
    omega
  have hword : (UInt64.ofNat n).toNat = n := by
    rw [UInt64.toNat_ofNat', Nat.mod_eq_of_lt hsmall]
  rw [Word.toSigned, hword, if_pos hn]

namespace Store

variable {s s' : Store} {id : Int} {row : Int × StoredRun} {told : RunRecord × Collector}

/-- All references between the tables of a store lead somewhere, and counts are right. -/
structure Referential (bs : Numbered BinaryRecord) (runs : Numbered StoredRun)
    (ts : List StoredType) (fs : List StoredFunction) (ps : List StoredParameter) : Prop where
  names : (bs.contents.map BinaryRecord.name).Nodup
  binaries : ∀ row ∈ runs.rows, ∃ b ∈ bs.contents, b.name = row.2.binary
  types : ∀ t ∈ ts, ∃ row ∈ runs.rows, row.1 = t.run
  functions : ∀ f ∈ fs, ∃ row ∈ runs.rows, row.1 = f.run
  parameters : ∀ p ∈ ps, ∃ row ∈ runs.rows, row.1 = p.run
  owners : ∀ p ∈ ps, ∃ f ∈ fs, f.run = p.run ∧ f.address = p.address
  positions : ∀ f ∈ fs, ∃ k : Nat,
    (ps.filter fun p => p.address == f.address && p.run == f.run).map StoredParameter.position =
      (List.range k).map Int.ofNat
  typeCounts : ∀ row ∈ runs.rows,
    StoredCount row.2.typesAdded (ts.filter fun t => t.run == row.1).length
  functionCounts : ∀ row ∈ runs.rows,
    StoredCount row.2.functionsAdded (fs.filter fun f => f.run == row.1).length

/-! ### Names of binaries -/

/-- A name that is noted is new. -/
theorem nodup_names_of_insertBinary {t : Numbered BinaryRecord} (ht : s.binaries = some t)
    (hnames : (t.contents.map BinaryRecord.name).Nodup) {b : BinaryRecord}
    (h : s.insertBinary b = .ok (s', id)) :
    ∃ t', s'.binaries = some t' ∧ (t'.contents.map BinaryRecord.name).Nodup := by
  obtain ⟨u, hu, hnew, -, -, rfl⟩ := insertBinary_eq_ok_iff.1 h
  obtain rfl := Option.some.inj (hu.symm.trans ht)
  refine ⟨u.push b, rfl, ?_⟩
  rw [Numbered.contents_push, List.map_append, List.nodup_append]
  refine ⟨hnames, List.nodup_singleton _, ?_⟩
  intro name hname name' hname' heq
  obtain ⟨known, hknown, rfl⟩ := List.mem_map.1 hname
  exact hnew known hknown (heq.trans (List.mem_singleton.1 hname'))

theorem Reached.exists_binaries (h : s.Reached) :
    ∃ t, s.binaries = some t ∧ (t.contents.map BinaryRecord.name).Nodup := by
  induction h with
  | fresh => exact ⟨.empty, rfl, List.nodup_nil⟩
  | insertBinary _ h ih =>
    obtain ⟨t, ht, hnames⟩ := ih
    exact nodup_names_of_insertBinary ht hnames h
  | insertRun _ h ih =>
    obtain ⟨t, -, -, -, rfl⟩ := insertRun_eq_ok_iff.1 h
    exact ih
  | recordRun _ h ih =>
    rw [binaries_of_recordRun h]
    exact ih
  | writeFindings _ _ h ih =>
    rw [eq_of_writeFindings h]
    exact ih
  | reopen hs h ih =>
    rw [hs.intact.migrate] at h
    exact Except.ok.inj h ▸ ih

/-- A binary that is known stays known. -/
theorem Knows.recorded {name : String} (hs : s.Knows name) {rs : List (RunRecord × Collector)}
    {ids : List Int} (h : Recorded s rs ids s') : s'.Knows name := by
  obtain ⟨t, ht, hknown⟩ := hs
  exact ⟨t, h.binaries_eq.trans ht, hknown⟩

/-! ### The rows of a run -/

/-- The tables have, under the number of a run, what the run found and nothing else. -/
structure Holds (s : Store) (row : Int × StoredRun) (told : RunRecord × Collector) : Prop
    extends Tells s row told where
  types : s.typesOf row.1 = StoredType.ofCollector row.1 told.2
  functions : s.functionsOf row.1 = StoredFunction.ofCollector row.1 told.2
  parameters : s.parametersOf row.1 = StoredParameter.ofCollector row.1 told.2

namespace Holds

theorem insertBinary (h : Holds s row told) {b : BinaryRecord}
    (hs' : s.insertBinary b = .ok (s', id)) : Holds s' row told := by
  have htells := h.toTells.insertBinary hs'
  obtain ⟨t, -, -, -, -, rfl⟩ := insertBinary_eq_ok_iff.1 hs'
  exact ⟨htells, h.types, h.functions, h.parameters⟩

/-- The rows of another run stay, for the new run has another number. -/
theorem recordRun (h : Holds s row told) {r : RunRecord} {c : Collector}
    (hs' : s.recordRun r c = .ok (s', id)) : Holds s' row told := by
  obtain ⟨noted, hnoted, hwritten⟩ := recordRun_eq_ok_iff.1 hs'
  have hne : row.1 ≠ id := by
    intro heq
    have hknown := h.known
    rw [heq, run?_eq_none_of_insertRun hnoted] at hknown
    cases hknown
  obtain ⟨htypes, hfunctions, hparameters⟩ := tables_of_insertRun hnoted
  obtain ⟨htypesOf, hfunctionsOf, hparametersOf⟩ := rowsOf_of_writeFindings_of_ne hwritten hne
  refine ⟨h.toTells.recordRun hs', ?_, ?_, ?_⟩
  · rw [htypesOf, typesOf, htypes]
    exact h.types
  · rw [hfunctionsOf, functionsOf, hfunctions]
    exact h.functions
  · rw [hparametersOf, parametersOf, hparameters]
    exact h.parameters

/-- No row of a new run is there before it is written, so none is replaced. -/
theorem of_recordRun {r : RunRecord} {c : Collector} (hs : s.Intact) (hc : c.Sound)
    (h : s.recordRun r c = .ok (s', id)) : Holds s' (id, .ofRecord r) (r, c) := by
  obtain ⟨noted, hnoted, hwritten⟩ := recordRun_eq_ok_iff.1 h
  have hnone := hs.hasNoFindings_of_insertRun hnoted
  obtain ⟨htypes, hfunctions, hparameters⟩ := rowsOf_of_writeFindings hwritten hc
  rw [hnone.types, overwrite_nil] at htypes
  rw [hnone.functions, overwrite_nil] at hfunctions
  rw [hnone.parameters, overwrite_nil] at hparameters
  exact ⟨.of_recordRun hs hc h, htypes, hfunctions, hparameters⟩

theorem length_types (h : Holds s row told) : (s.typesOf row.1).length = told.2.typeCount := by
  rw [h.types, StoredType.ofCollector, List.length_map, Collector.typeCount,
    KeyedList.size_eq_length]

theorem length_functions (h : Holds s row told) :
    (s.functionsOf row.1).length = told.2.functionCount := by
  rw [h.functions, StoredFunction.ofCollector, List.length_map, Collector.functionCount,
    KeyedList.size_eq_length]

/-- A parameter is at the address of the function it was written with. -/
theorem exists_owner (h : Holds s row told) {p : StoredParameter} (hp : p ∈ s.parametersOf row.1) :
    ∃ f ∈ s.functionsOf row.1, f.address = p.address := by
  rw [h.parameters, StoredParameter.ofCollector] at hp
  obtain ⟨e, he, hp⟩ := List.mem_flatMap.1 hp
  rw [h.functions]
  exact ⟨_, List.mem_map_of_mem he, (StoredParameter.mem_ofRecord hp).2.symm⟩

/-- The parameters at the address of a function are its own, since no other function of the
run is there. -/
theorem exists_positions (h : Holds s row told) (hsound : told.2.Sound) {f : StoredFunction}
    (hf : f ∈ s.functionsOf row.1) : ∃ k : Nat,
      ((s.parametersOf row.1).filter fun p => p.address == f.address).map
        StoredParameter.position = (List.range k).map Int.ofNat := by
  rw [h.functions] at hf
  obtain ⟨e, he, rfl⟩ := List.mem_map.1 hf
  refine ⟨e.function.parameters.length, ?_⟩
  rw [h.parameters, ← StoredParameter.map_position_ofRecord row.1]
  exact congrArg _ (StoredParameter.filter_ofCollector hsound he)

end Holds

/-- **Each row of the table has what its run found**, and the rows are the runs of the
chronicle. -/
theorem Chronicle.exists_holds {rs : List (RunRecord × Collector)} (h : Chronicle rs s) :
    ∃ t, s.runs = some t ∧ List.Forall₂ (Holds s) t.rows rs :=
  h.exists_rows_of (fun hrow h => hrow.insertBinary h) (fun hrow h => hrow.recordRun h)
    Holds.of_recordRun

/-! ### All references -/

section Tables

variable {bs : Numbered BinaryRecord} {runs : Numbered StoredRun} {ts : List StoredType}
  {fs : List StoredFunction} {ps : List StoredParameter}

theorem mem_typesOf (h : s.types = some ts) {t : StoredType} :
    t ∈ s.typesOf id ↔ t ∈ ts ∧ t.run = id := by
  rw [typesOf, h, Option.getD_some, List.mem_filter, beq_iff_eq]

theorem mem_functionsOf (h : s.functions = some fs) {f : StoredFunction} :
    f ∈ s.functionsOf id ↔ f ∈ fs ∧ f.run = id := by
  rw [functionsOf, h, Option.getD_some, List.mem_filter, beq_iff_eq]

theorem mem_parametersOf (h : s.parameters = some ps) {p : StoredParameter} :
    p ∈ s.parametersOf id ↔ p ∈ ps ∧ p.run = id := by
  rw [parametersOf, h, Option.getD_some, List.mem_filter, beq_iff_eq]

namespace Intact

/-- Where findings are, there is a run. -/
theorem exists_row (hs : s.Intact) (hruns : s.runs = some runs) (h : ¬ s.HasNoFindings id) :
    ∃ row ∈ runs.rows, row.1 = id := by
  by_contra hnone
  refine h (hs.unknown id ?_)
  rw [run?, hruns, Option.bind_some, Numbered.find?, List.lookup_eq_none_iff]
  intro row hrow
  exact bne_iff_ne.2 fun heq => hnone ⟨row, hrow, heq.symm⟩

theorem exists_row_of_type (hs : s.Intact) (hruns : s.runs = some runs)
    (hts : s.types = some ts) : ∀ t ∈ ts, ∃ row ∈ runs.rows, row.1 = t.run := by
  intro t ht
  refine hs.exists_row hruns fun hnone => ?_
  have hmem := (mem_typesOf hts).2 ⟨ht, rfl⟩
  rw [hnone.types] at hmem
  exact List.not_mem_nil hmem

theorem exists_row_of_function (hs : s.Intact) (hruns : s.runs = some runs)
    (hfs : s.functions = some fs) : ∀ f ∈ fs, ∃ row ∈ runs.rows, row.1 = f.run := by
  intro f hf
  refine hs.exists_row hruns fun hnone => ?_
  have hmem := (mem_functionsOf hfs).2 ⟨hf, rfl⟩
  rw [hnone.functions] at hmem
  exact List.not_mem_nil hmem

theorem exists_row_of_parameter (hs : s.Intact) (hruns : s.runs = some runs)
    (hps : s.parameters = some ps) : ∀ p ∈ ps, ∃ row ∈ runs.rows, row.1 = p.run := by
  intro p hp
  refine hs.exists_row hruns fun hnone => ?_
  have hmem := (mem_parametersOf hps).2 ⟨hp, rfl⟩
  rw [hnone.parameters] at hmem
  exact List.not_mem_nil hmem

end Intact

namespace Chronicle

variable {rs : List (RunRecord × Collector)}

/-- If the runs were of known binaries and their records have the counts right, then all
references lead somewhere. -/
theorem referential_of_tables (h : Chronicle rs s) (hbs : s.binaries = some bs)
    (hruns : s.runs = some runs) (hts : s.types = some ts) (hfs : s.functions = some fs)
    (hps : s.parameters = some ps) (hknown : ∀ told ∈ rs, s.Knows told.1.binary)
    (htypeCounts : ∀ told ∈ rs, told.1.typesAdded = UInt64.ofNat told.2.typeCount)
    (hfunctionCounts : ∀ told ∈ rs, told.1.functionsAdded = UInt64.ofNat told.2.functionCount) :
    Referential bs runs ts fs ps := by
  have hintact := h.reached.intact
  have htold : ∀ row ∈ runs.rows, ∃ told ∈ rs, Holds s row told := by
    obtain ⟨t, ht, hrows⟩ := h.exists_holds
    obtain rfl := Option.some.inj (ht.symm.trans hruns)
    exact fun row hrow => exists_of_forall₂ hrows hrow
  constructor
  case names =>
    obtain ⟨t, ht, hnames⟩ := h.reached.exists_binaries
    obtain rfl := Option.some.inj (ht.symm.trans hbs)
    exact hnames
  case binaries =>
    intro row hrow
    obtain ⟨told, hmem, hholds⟩ := htold row hrow
    obtain ⟨t, ht, b, hb, hname⟩ := hknown told hmem
    obtain rfl := Option.some.inj (ht.symm.trans hbs)
    rw [hholds.record]
    exact ⟨b, hb, hname⟩
  case types => exact hintact.exists_row_of_type hruns hts
  case functions => exact hintact.exists_row_of_function hruns hfs
  case parameters => exact hintact.exists_row_of_parameter hruns hps
  case owners =>
    intro p hp
    obtain ⟨row, hrow, hrun⟩ := hintact.exists_row_of_parameter hruns hps p hp
    obtain ⟨told, -, hholds⟩ := htold row hrow
    obtain ⟨f, hf, haddress⟩ := hholds.exists_owner ((mem_parametersOf hps).2 ⟨hp, hrun.symm⟩)
    obtain ⟨hf, hfrun⟩ := (mem_functionsOf hfs).1 hf
    exact ⟨f, hf, hfrun.trans hrun, haddress⟩
  case positions =>
    intro f hf
    obtain ⟨row, hrow, hrun⟩ := hintact.exists_row_of_function hruns hfs f hf
    obtain ⟨told, hmem, hholds⟩ := htold row hrow
    obtain ⟨k, hk⟩ := hholds.exists_positions (h.sound told hmem)
      ((mem_functionsOf hfs).2 ⟨hf, hrun.symm⟩)
    rw [parametersOf, hps, List.filter_filter, hrun] at hk
    exact ⟨k, hk⟩
  case typeCounts =>
    intro row hrow
    obtain ⟨told, hmem, hholds⟩ := htold row hrow
    have hlength := hholds.length_types
    rw [typesOf, hts] at hlength
    rw [hholds.record, StoredRun.ofRecord, htypeCounts told hmem, ← hlength]
    exact storedCount_toSigned _
  case functionCounts =>
    intro row hrow
    obtain ⟨told, hmem, hholds⟩ := htold row hrow
    have hlength := hholds.length_functions
    rw [functionsOf, hfs] at hlength
    rw [hholds.record, StoredRun.ofRecord, hfunctionCounts told hmem, ← hlength]
    exact storedCount_toSigned _

end Chronicle

/-- The tables of a store that came about by use. -/
theorem Reached.exists_eq (h : s.Reached) : ∃ bs runs ts fs ps,
    s = { version := currentVersion, binaries := some bs, runs := some runs, types := some ts,
          functions := some fs, parameters := some ps } := by
  obtain ⟨bs, hbs, -⟩ := h.exists_binaries
  obtain ⟨runs, hruns⟩ := h.intact.runs
  obtain ⟨ts, fs, ps, hts, hfs, hps⟩ := h.exists_tables
  have hversion := h.intact.version
  cases s
  cases hbs
  cases hruns
  cases hts
  cases hfs
  cases hps
  cases hversion
  exact ⟨bs, runs, ts, fs, ps, rfl⟩

end Tables

end Store

end DebugCatalog
