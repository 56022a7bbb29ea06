import DebugCatalog.Proofs.Collector.Adding
import DebugCatalog.Proofs.Collector.Lookups
import DebugCatalog.Proofs.Store.Recording

/-!
# What a new run inherits

A load refuses the number of a run that is not there, and a write does not.  So findings can be
written under a number before there is a run of that number, and the run that gets it later has
them from the beginning.

`Store.Written ws s` are the stores that come about when all writes are allowed, with any
number.  `ws` has what was written under a number of the caller's choosing, in order.
`loadFindings_of_written` says exactly when nothing is inherited: all rows belong to a run
unless something was written under a number that still has no run, and a new run begins empty
unless something was written under its number before.
-/

namespace DebugCatalog

/-! ### Rows that were written -/

section Rows

variable {α κ : Type} [BEq κ] {key : α → κ} {new : List α}

theorem mem_foldl_replaceRow {rows : List α} {x : α} (h : x ∈ new.foldl (replaceRow key) rows) :
    x ∈ rows ∨ x ∈ new := by
  induction new generalizing rows with
  | nil => exact .inl h
  | cons y new ih =>
    rcases ih h with hx | hx
    · rcases List.mem_append.1 hx with hx | hx
      · exact .inl (List.mem_filter.1 hx).1
      · exact .inr (List.mem_cons.2 (.inl (List.mem_singleton.1 hx)))
    · exact .inr (List.mem_cons_of_mem _ hx)

/-- The last row that was written is there. -/
theorem filter_foldl_replaceRow_ne_nil {p : α → Bool} (hnew : new ≠ [])
    (hp : ∀ x ∈ new, p x = true) (rows : List α) :
    (new.foldl (replaceRow key) rows).filter p ≠ [] := by
  have hlast := hp _ (List.getLast_mem hnew)
  rw [← List.dropLast_concat_getLast hnew, List.foldl_append, List.foldl_cons, List.foldl_nil,
    replaceRow, List.filter_append, List.filter_cons, hlast]
  exact fun hnil => List.cons_ne_nil _ _ (List.append_eq_nil_iff.1 hnil).2

end Rows

/-! ### Collectors without anything in them -/

/-- Something that was offered is there. -/
theorem KeyedList.eq_nil_of_foldl_offer {α κ : Type} [BEq κ] [LawfulBEq κ] [Hashable κ]
    {key : α → κ} {l : KeyedList key} {as : List α} (h : as.foldl offer l = empty) : as = [] := by
  rw [List.eq_nil_iff_forall_not_mem]
  intro a ha
  have hcontains := contains_foldl_offer l as (key a)
  rw [h, contains_empty, eq_comm, Bool.or_eq_false_iff, List.any_eq_false] at hcontains
  exact hcontains.2 a ha (beq_self_eq_true (key a))

namespace Collector

variable {c : Collector}

theorem typeEntries_eq_nil_of_addAll {additions : List Addition}
    (h : (c.addAll additions).types = .empty) {a : Addition} (ha : a ∈ additions) :
    a.typeEntries c.source = [] := by
  rw [types_addAll] at h
  exact List.flatMap_eq_nil_iff.1 (KeyedList.eq_nil_of_foldl_offer h) a ha

theorem functionEntries_eq_nil_of_addAll {additions : List Addition}
    (h : (c.addAll additions).functions = .empty) {a : Addition} (ha : a ∈ additions) :
    a.functionEntries c.source = [] := by
  rw [functions_addAll] at h
  exact List.flatMap_eq_nil_iff.1 (KeyedList.eq_nil_of_foldl_offer h) a ha

end Collector

namespace Store

variable {s s' : Store} {id run : Int} {c : Collector}

/-! ### Loading nothing -/

/-- What is added when rows are assembled. -/
def additionsOf (ts : List StoredType) (ps : List StoredParameter) (fs : List StoredFunction) :
    List Addition :=
  (ts.map fun t => .type t.name (.ofText t.definition)) ++
    fs.map fun f => .function (functionOf ps f)

theorem assemble_eq_addAll {parser : String} {ts : List StoredType} {ps : List StoredParameter}
    {fs : List StoredFunction} (h : AreTexts ts ps fs) :
    assemble parser ts ps fs = .ok (((Collector.empty.crediting (some parser)).addAll
      (additionsOf ts ps fs)).crediting none) := by
  rw [assemble_eq h, additionsOf, Collector.addAll, List.foldl_append, List.foldl_map,
    List.foldl_map, List.foldl_map, List.foldl_map]
  rfl

/-- Rows with names are not lost. -/
theorem eq_nil_of_assemble_eq_empty {parser : String} {ts : List StoredType}
    {ps : List StoredParameter} {fs : List StoredFunction} (htypes : ∀ t ∈ ts, t.name ≠ "")
    (hfunctions : ∀ f ∈ fs, (functionOf ps f).isAnonymous = false)
    (h : assemble parser ts ps fs = .ok .empty) : ts = [] ∧ fs = [] := by
  rw [assemble_eq_addAll (assemble_isOk_iff.1 ⟨_, h⟩)] at h
  have hempty := Except.ok.inj h
  constructor
  · rw [List.eq_nil_iff_forall_not_mem]
    intro t ht
    have hnone := Collector.typeEntries_eq_nil_of_addAll (congrArg Collector.types hempty)
      (List.mem_append_left _ (List.mem_map_of_mem ht))
    rw [Addition.typeEntries, if_neg (htypes t ht)] at hnone
    exact List.cons_ne_nil _ _ hnone
  · rw [List.eq_nil_iff_forall_not_mem]
    intro f hf
    have hnone := Collector.functionEntries_eq_nil_of_addAll (congrArg Collector.functions hempty)
      (List.mem_append_right _ (List.mem_map_of_mem hf))
    rw [Addition.functionEntries, hfunctions f hf, if_neg Bool.false_ne_true] at hnone
    exact List.cons_ne_nil _ _ hnone

/-! ### Rows with names -/

/-- The tables of findings are there, and their rows have names. -/
structure Named (s : Store) : Prop where
  tables : ∃ ts fs ps, s.types = some ts ∧ s.functions = some fs ∧ s.parameters = some ps
  types : ∀ t ∈ s.types.getD [], t.name ≠ ""
  functions : ∀ ps, ∀ f ∈ s.functions.getD [], (functionOf ps f).isAnonymous = false

theorem Named.congr (h : s.Named) (htypes : s'.types = s.types)
    (hfunctions : s'.functions = s.functions) (hparameters : s'.parameters = s.parameters) :
    s'.Named := by
  constructor
  · rw [htypes, hfunctions, hparameters]
    exact h.tables
  · rw [htypes]
    exact h.types
  · rw [hfunctions]
    exact h.functions

theorem Named.writeFindings (hs : s.Named) (hc : c.Sound)
    (h : s.writeFindings run c = .ok s') : s'.Named := by
  rw [eq_of_writeFindings h]
  refine ⟨⟨_, _, _, rfl, rfl, rfl⟩, ?_, ?_⟩
  · intro t ht
    rcases mem_foldl_replaceRow ht with ht | ht
    · exact hs.types t ht
    · obtain ⟨e, he, rfl⟩ := List.mem_map.1 ht
      exact hc.typeNamed e he
  · intro ps f hf
    rcases mem_foldl_replaceRow hf with hf | hf
    · exact hs.functions ps f hf
    · obtain ⟨e, he, rfl⟩ := List.mem_map.1 hf
      exact hc.functionNamed e he

/-- A run loads as nothing only if there is nothing. -/
theorem Named.eq_nil_of_loadFindings (hs : s.Named) {r : StoredRun} (hrun : s.run? run = some r)
    (h : s.loadFindings run = .ok .empty) : s.typesOf run = [] ∧ s.functionsOf run = [] := by
  obtain ⟨ts, fs, ps, hts, hfs, hps⟩ := hs.tables
  rw [loadFindings_eq_assemble hrun hts hfs hps] at h
  exact eq_nil_of_assemble_eq_empty
    (fun t ht => hs.types t (List.mem_filter.1 ht).1)
    (fun f hf => hs.functions _ f (List.mem_filter.1 hf).1) h

theorem Named.loadFindings_of_hasNoFindings (hs : s.Named) {r : StoredRun}
    (hrun : s.run? run = some r) (h : s.HasNoFindings run) : s.loadFindings run = .ok .empty := by
  obtain ⟨ts, fs, ps, hts, hfs, hps⟩ := hs.tables
  have htexts : AreTexts [] [] [] := ⟨nofun, nofun, nofun⟩
  rw [loadFindings_eq_assemble hrun hts hfs hps, h.types, h.functions, h.parameters,
    assemble_eq htexts]
  rfl

/-! ### Writing nothing and writing something -/

theorem rowsOf_of_writeFindings_of_isEmpty (h : s.writeFindings run c = .ok s')
    (hc : c.isEmpty = true) (other : Int) : s'.typesOf other = s.typesOf other ∧
      s'.functionsOf other = s.functionsOf other ∧
      s'.parametersOf other = s.parametersOf other := by
  obtain ⟨htypes, hfunctions⟩ := Collector.isEmpty_iff.1 hc
  rw [eq_of_writeFindings h, StoredType.ofCollector, StoredFunction.ofCollector,
    StoredParameter.ofCollector, htypes, hfunctions]
  exact ⟨rfl, rfl, rfl⟩

/-- Something that was written is there. -/
theorem isEmpty_of_writeFindings (h : s.writeFindings run c = .ok s')
    (htypes : s'.typesOf run = []) (hfunctions : s'.functionsOf run = []) : c.isEmpty = true := by
  rw [eq_of_writeFindings h] at htypes hfunctions
  rw [Collector.isEmpty_iff]
  constructor
  · by_contra hne
    refine filter_foldl_replaceRow_ne_nil (mt List.map_eq_nil_iff.1 hne) ?_ _ htypes
    exact List.forall_mem_map.2 fun e _ => beq_self_eq_true run
  · by_contra hne
    refine filter_foldl_replaceRow_ne_nil (mt List.map_eq_nil_iff.1 hne) ?_ _ hfunctions
    exact List.forall_mem_map.2 fun e _ => beq_self_eq_true run

/-! ### Writing under any number -/

/-- A store that is made from a new one by writing to it.  `ws` has what was written under a
number that the caller chose, whether there was a run of that number or not. -/
inductive Written : List (Int × Collector) → Store → Prop
  | fresh : Written [] fresh
  | insertBinary {ws : List (Int × Collector)} {s s' : Store} {b : BinaryRecord} {id : Int}
      (hs : Written ws s) (h : s.insertBinary b = .ok (s', id)) : Written ws s'
  | insertRun {ws : List (Int × Collector)} {s s' : Store} {r : RunRecord} {id : Int}
      (hs : Written ws s) (h : s.insertRun r = .ok (s', id)) : Written ws s'
  | recordRun {ws : List (Int × Collector)} {s s' : Store} {r : RunRecord} {c : Collector}
      {id : Int} (hs : Written ws s) (hc : c.Held) (h : s.recordRun r c = .ok (s', id)) :
      Written ws s'
  | writeFindings {ws : List (Int × Collector)} {s s' : Store} {run : Int} {c : Collector}
      (hs : Written ws s) (hc : c.Held) (h : s.writeFindings run c = .ok s') :
      Written (ws ++ [(run, c)]) s'

/-- Nothing but empty collectors was written under a number. -/
def WroteNothing (ws : List (Int × Collector)) (run : Int) : Prop :=
  ∀ w ∈ ws, w.1 = run → w.2.isEmpty = true

variable {ws : List (Int × Collector)}

theorem wroteNothing_append (ws : List (Int × Collector)) (w : Int × Collector) (run : Int) :
    WroteNothing (ws ++ [w]) run ↔ WroteNothing ws run ∧ (w.1 = run → w.2.isEmpty = true) := by
  rw [WroteNothing, WroteNothing, List.forall_mem_append, List.forall_mem_singleton]

/-- The rows under a number that has no run are those that were written under it.  The two
halves ask for different tables: there are parameters only where there are functions. -/
structure Accounted (ws : List (Int × Collector)) (s : Store) : Prop where
  named : s.Named
  clean : ∀ run, s.run? run = none → WroteNothing ws run → s.HasNoFindings run
  wrote : ∀ run, s.run? run = none → s.typesOf run = [] → s.functionsOf run = [] →
    WroteNothing ws run

theorem accounted_fresh : Accounted [] fresh where
  named := by
    refine ⟨⟨[], [], [], rfl, rfl, rfl⟩, ?_, ?_⟩
    · exact fun t ht => absurd ht List.not_mem_nil
    · exact fun ps f hf => absurd hf List.not_mem_nil
  clean := fun _ _ _ => ⟨rfl, rfl, rfl⟩
  wrote := fun _ _ _ _ w hw => absurd hw List.not_mem_nil

namespace Accounted

/-- New runs leave fewer numbers without a run. -/
theorem congr (hs : Accounted ws s) (htypes : s'.types = s.types)
    (hfunctions : s'.functions = s.functions) (hparameters : s'.parameters = s.parameters)
    (hruns : ∀ run, s'.run? run = none → s.run? run = none) : Accounted ws s' where
  named := hs.named.congr htypes hfunctions hparameters
  clean run hrun hnothing :=
    (hs.clean run (hruns run hrun) hnothing).congr htypes hfunctions hparameters
  wrote run hrun hnotypes hnofunctions := by
    rw [typesOf, htypes] at hnotypes
    rw [functionsOf, hfunctions] at hnofunctions
    exact hs.wrote run (hruns run hrun) hnotypes hnofunctions

theorem insertBinary (hs : Accounted ws s) {b : BinaryRecord}
    (h : s.insertBinary b = .ok (s', id)) : Accounted ws s' := by
  obtain ⟨t, -, -, -, -, rfl⟩ := insertBinary_eq_ok_iff.1 h
  exact hs.congr rfl rfl rfl fun _ hrun => hrun

theorem insertRun (hs : Accounted ws s) {r : RunRecord} (h : s.insertRun r = .ok (s', id)) :
    Accounted ws s' := by
  obtain ⟨htypes, hfunctions, hparameters⟩ := tables_of_insertRun h
  refine hs.congr htypes hfunctions hparameters fun run hrun => ?_
  rw [run?_of_insertRun h] at hrun
  split at hrun
  · cases hrun
  · exact hrun

theorem writeFindings (hs : Accounted ws s) (hc : c.Sound)
    (h : s.writeFindings run c = .ok s') : Accounted (ws ++ [(run, c)]) s' := by
  refine ⟨hs.named.writeFindings hc h, ?_, ?_⟩
  · intro other hother hnothing
    rw [run?, runs_of_writeFindings h] at hother
    obtain ⟨hbefore, hnow⟩ := (wroteNothing_append ws (run, c) other).1 hnothing
    have hclean := hs.clean other hother hbefore
    obtain ⟨htypes, hfunctions, hparameters⟩ : s'.typesOf other = s.typesOf other ∧
        s'.functionsOf other = s.functionsOf other ∧
        s'.parametersOf other = s.parametersOf other := by
      by_cases hne : other = run
      · exact rowsOf_of_writeFindings_of_isEmpty h (hnow hne.symm) other
      · exact rowsOf_of_writeFindings_of_ne h hne
    exact ⟨htypes.trans hclean.types, hfunctions.trans hclean.functions,
      hparameters.trans hclean.parameters⟩
  · intro other hother hnotypes hnofunctions
    rw [run?, runs_of_writeFindings h] at hother
    rw [wroteNothing_append]
    by_cases hne : other = run
    · subst hne
      have hempty := isEmpty_of_writeFindings h hnotypes hnofunctions
      obtain ⟨htypes, hfunctions, -⟩ := rowsOf_of_writeFindings_of_isEmpty h hempty other
      exact ⟨hs.wrote other hother (htypes ▸ hnotypes) (hfunctions ▸ hnofunctions),
        fun _ => hempty⟩
    · obtain ⟨htypes, hfunctions, -⟩ := rowsOf_of_writeFindings_of_ne h hne
      exact ⟨hs.wrote other hother (htypes ▸ hnotypes) (hfunctions ▸ hnofunctions),
        fun heq => absurd heq.symm hne⟩

/-- What was written under the number of a run does not count. -/
theorem of_known {w : Int × Collector} (hs : Accounted (ws ++ [w]) s) {r : StoredRun}
    (hrun : s.run? w.1 = some r) : Accounted ws s := by
  have hother : ∀ run, s.run? run = none → w.1 ≠ run := by
    rintro run hnone rfl
    rw [hrun] at hnone
    cases hnone
  refine ⟨hs.named, fun run hnone hnothing => ?_, fun run hnone htypes hfunctions => ?_⟩
  · exact hs.clean run hnone ((wroteNothing_append ws w run).2
      ⟨hnothing, fun heq => absurd heq (hother run hnone)⟩)
  · exact ((wroteNothing_append ws w run).1 (hs.wrote run hnone htypes hfunctions)).1

theorem recordRun (hs : Accounted ws s) {r : RunRecord} (hc : c.Sound)
    (h : s.recordRun r c = .ok (s', id)) : Accounted ws s' := by
  obtain ⟨noted, hnoted, hwritten⟩ := recordRun_eq_ok_iff.1 h
  exact ((hs.insertRun hnoted).writeFindings hc hwritten).of_known (run?_of_recordRun h)

/-- All rows belong to a run exactly if nothing was written under a number without one. -/
theorem hasNoFindings_iff (hs : Accounted ws s) (hrun : s.run? run = none) :
    s.HasNoFindings run ↔ WroteNothing ws run :=
  ⟨fun h => hs.wrote run hrun h.types h.functions, hs.clean run hrun⟩

/-- A new run loads as nothing exactly if nothing was written under its number before. -/
theorem loadFindings_insertRun_iff (hs : Accounted ws s) {r : RunRecord}
    (h : s.insertRun r = .ok (s', id)) :
    s'.loadFindings id = .ok .empty ↔ WroteNothing ws id := by
  have hnone := run?_eq_none_of_insertRun h
  have hrun : s'.run? id = some (.ofRecord r) := by rw [run?_of_insertRun h, if_pos rfl]
  have hnamed := (hs.insertRun h).named
  obtain ⟨htypes, hfunctions, hparameters⟩ := tables_of_insertRun h
  constructor
  · intro hload
    obtain ⟨hnotypes, hnofunctions⟩ := hnamed.eq_nil_of_loadFindings hrun hload
    rw [typesOf, htypes] at hnotypes
    rw [functionsOf, hfunctions] at hnofunctions
    exact hs.wrote id hnone hnotypes hnofunctions
  · intro hnothing
    exact hnamed.loadFindings_of_hasNoFindings hrun
      ((hs.clean id hnone hnothing).congr htypes hfunctions hparameters)

end Accounted

theorem Written.accounted (h : Written ws s) : Accounted ws s := by
  induction h with
  | fresh => exact accounted_fresh
  | insertBinary _ h ih => exact ih.insertBinary h
  | insertRun _ h ih => exact ih.insertRun h
  | recordRun _ hc h ih => exact ih.recordRun hc.sound h
  | writeFindings _ hc h ih => exact ih.writeFindings hc.sound h

/-- **A new run inherits what was written under its number before there was a run**, and nothing
else.  Rows belong to runs as far as nothing is written under a number without one. -/
theorem loadFindings_of_written (h : Written ws s) :
    (∀ run, s.run? run = none → (s.HasNoFindings run ↔ WroteNothing ws run)) ∧
      ∀ r s' id, s.insertRun r = .ok (s', id) →
        (s'.loadFindings id = .ok .empty ↔ WroteNothing ws id) :=
  ⟨fun _ hrun => h.accounted.hasNoFindings_iff hrun,
    fun _ _ _ hnoted => h.accounted.loadFindings_insertRun_iff hnoted⟩

/-- The first run of a store has the number under which a function was written before. -/
theorem loadFindings_of_written_first : ∃ s s',
    Written [(1, Collector.empty.addFunction lastFunction)] s ∧ ¬ s.HasNoFindings 1 ∧
      s.insertRun lastRun = .ok (s', 1) ∧ s'.loadFindings 1 ≠ .ok .empty := by
  obtain ⟨s, hwritten⟩ : ∃ s,
      fresh.writeFindings 1 (Collector.empty.addFunction lastFunction) = .ok s := ⟨_, rfl⟩
  obtain ⟨s', hnoted⟩ : ∃ s', s.insertRun lastRun = .ok (s', 1) := by
    cases hwritten
    exact ⟨_, rfl⟩
  have hs : Written [(1, Collector.empty.addFunction lastFunction)] s :=
    .writeFindings .fresh (.addFunction .empty lastFunction) hwritten
  have hwrote : ¬ WroteNothing [(1, Collector.empty.addFunction lastFunction)] 1 := by
    intro hnothing
    have hempty := hnothing _ (List.mem_singleton_self _) rfl
    rw [Collector.addFunction_empty (by decide)] at hempty
    cases hempty
  obtain ⟨hrows, hload⟩ := loadFindings_of_written hs
  refine ⟨s, s', hs, ?_, hnoted, ?_⟩
  · exact fun hnone => hwrote ((hrows 1 (run?_eq_none_of_insertRun hnoted)).1 hnone)
  · exact fun hempty => hwrote ((hload _ _ _ hnoted).1 hempty)

end Store

end DebugCatalog
