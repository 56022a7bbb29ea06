import DebugCatalog.Proofs.Ingest.ReadBack
import DebugCatalog.Proofs.Store.Latest

/-!
# What ingests leave behind

`History rs s` says that `s` came out of a new store by ingests, and that `rs` are the runs
they recorded, with what the parsers found.  An ingest that stops half-way has recorded as
many of the runs it planned as the store has more of.

* `History.chronicle`: to the store, these are runs recorded one after the other.
* `Ingested.exists_history`: there is a history of every store that ingests have made.
* `loadBinary_of_history`: when a binary can be loaded.

An ingest does not look at the depth of a type before it writes the text.  So it may give
back what cannot be loaded afterwards (`loadBinary_of_history_chainParser`).
-/

namespace DebugCatalog

namespace Store

/-- How many runs the store has. -/
def runCount (s : Store) : Nat :=
  (s.runs.map fun t => t.rows.length).getD 0

variable {s s' : Store} {rs new : List (RunRecord × Collector)} {ids : List Int}

theorem Chronicle.runCount_eq (h : Chronicle rs s) : s.runCount = rs.length := by
  obtain ⟨t, ht, hrows⟩ := h.exists_rows
  rw [runCount, ht, Option.map_some, Option.getD_some, hrows.length_eq]

theorem Recorded.chronicle (h : Recorded s new ids s') (hs : Chronicle rs s)
    (hnew : ∀ r ∈ new, r.2.Reachable) : Chronicle (rs ++ new) s' := by
  induction h generalizing rs with
  | nil s => rwa [List.append_nil]
  | @cons s noted s' r c id new ids h _ ih =>
    obtain ⟨hc, hnew⟩ := List.forall_mem_cons.1 hnew
    have hrest := ih (.recordRun hs hc h) hnew
    rwa [List.append_assoc, List.singleton_append] at hrest

end Store

namespace Ingest

open Store (Chronicle)

variable {r : Registry} {defaults : List String} {now : String} {subject : Subject}
  {request : Request} {s s' : Store} {rs : List (RunRecord × Collector)}

/-! ### One more ingest -/

theorem reachable_planned {r : Registry} {defaults : List String} {now : String}
    {subject : Subject} {request : Request} {told : RunRecord × Collector}
    (h : told ∈ planned r defaults now subject request) : told.2.Reachable := by
  rw [planned] at h
  split at h
  · next v path parsers _ =>
    obtain ⟨p, -, rfl⟩ := List.mem_map.1 h
    exact .parseInto .empty p v
  · exact absurd h List.not_mem_nil

theorem prepare_eq {v : Image} {path : String} {parsers : List Parser}
    (himage : subject.image? request.path = .ok (v, path))
    (hselect : select r defaults v request.parsers = .ok parsers) :
    prepare r defaults subject request = .ok (v, path, parsers) := by
  rw [prepare, himage]
  change (select r defaults v request.parsers >>= _) = _
  rw [hselect]
  rfl

theorem planned_eq {v : Image} {path : String} {parsers : List Parser}
    (himage : subject.image? request.path = .ok (v, path))
    (hselect : select r defaults v request.parsers = .ok parsers) :
    planned r defaults now subject request =
      parsers.map (recordOf (request.name.getD v.name) now v) := by
  exact planned_of_prepare (prepare_eq himage hselect)

theorem chronicle_of_entered {entered : Store} (hs : Chronicle rs s)
    (h : entered = s ∨ ∃ b id, s.insertBinary b = .ok (entered, id)) : Chronicle rs entered := by
  rcases h with rfl | ⟨b, id, h⟩
  · exact hs
  · exact .insertBinary hs h

/-- What an ingest records of its plan can be told from the number of runs, and if it
succeeds, that is all of it. -/
theorem chronicle_run (hs : Chronicle rs s) {result : Except Error Summary}
    (h : run r defaults now subject request (some s) = (result, some s')) :
    Chronicle (rs ++ (planned r defaults now subject request).take (s'.runCount - s.runCount)) s' ∧
      ∀ summary, result = .ok summary →
        (planned r defaults now subject request).take (s'.runCount - s.runCount) =
          planned r defaults now subject request := by
  obtain ⟨_, entered, _, new, ids, hrun, hentered, hrecorded, hplan, -, hok⟩ :=
    run_planned r defaults now subject request s
  rw [hrun] at h
  cases h
  have hchronicle := hrecorded.chronicle (chronicle_of_entered hs hentered)
    fun told htold => reachable_planned (hplan.subset htold)
  have hcount : s'.runCount - s.runCount = new.length := by
    rw [hchronicle.runCount_eq, hs.runCount_eq, List.length_append, Nat.add_sub_cancel_left]
  rw [hcount, ← List.prefix_iff_eq_take.1 hplan]
  refine ⟨hchronicle, fun summary hsummary => ?_⟩
  obtain ⟨v, path, parsers, himage, hselect, rfl, -⟩ := hok summary hsummary
  exact (planned_eq himage hselect).symm

/-! ### Histories -/

/-- The runs recorded by the ingests that made a store from a new one, successful or not. -/
inductive History : List (RunRecord × Collector) → Store → Prop
  | fresh : History [] Store.fresh
  | run {rs : List (RunRecord × Collector)} {s s' : Store} {r : Registry}
      {defaults : List String} {now : String} {subject : Subject} {request : Request}
      {result : Except Error Summary} (hs : History rs s)
      (h : run r defaults now subject request (some s) = (result, some s')) :
      History
        (rs ++ (planned r defaults now subject request).take (s'.runCount - s.runCount)) s'

theorem History.chronicle (h : History rs s) : Chronicle rs s := by
  induction h with
  | fresh => exact .fresh
  | run _ h ih => exact (chronicle_run ih h).1

/-- A history can be told of every store that ingests have made. -/
theorem Ingested.exists_history (h : Ingested s) : ∃ rs, History rs s := by
  induction h with
  | fresh => exact ⟨[], .fresh⟩
  | run _ h ih =>
    obtain ⟨rs, hrs⟩ := ih
    exact ⟨_, .run hrs h⟩

/-- **A binary can be loaded exactly if the last run of each of its parsers found no type that
is too deep.**  Otherwise what fails is the text of a type. -/
theorem loadBinary_of_history (h : History rs s) (binary : String) :
    ((∃ c, s.loadBinary binary none = .ok c) ↔
        ∀ r ∈ Store.lastRuns binary rs, r.2.IsShallow) ∧
      ∀ e, s.loadBinary binary none = .error e → ∃ column fault, e = .column column fault :=
  ⟨h.chronicle.isOk_loadBinary_iff binary none, fun _ => h.chronicle.eq_column_of_loadBinary⟩

/-- A chain of pointers, with nothing at its end. -/
def chain : Nat → DataType
  | 0 => .void
  | n + 1 => .pointer (chain n) 8

theorem depth_chain (n : Nat) : (chain n).toJson.depth = n + 1 := by
  induction n with
  | zero => rw [chain, DataType.toJson, DataType.depth_tagged, Json.entriesDepth]
  | succ n ih =>
    rw [chain, DataType.toJson, DataType.depth_tagged]
    simp [Json.entriesDepth, Json.depth, Json.natural, ih]

/-- A parser that finds the shortest chain that is too deep. -/
def chainParser : Parser where
  registration := 0
  name := "dwarf"
  behavior :=
    { judge := fun _ => .accepts
      pass := fun _ _ =>
        { additions := [.type "list_head" (chain Json.depthLimit)], ending := .finished } }

theorem loadBinary_of_history_chainParser : ∃ summary s,
    run { parsers := KeyedList.empty.push chainParser } [] "now" (.image emptyImage "/kernel")
        { path := "/kernel", name := none, parsers := [] } (some Store.fresh) =
      (.ok summary, some s) ∧
      ∃ column fault, s.loadBinary "kernel" none = .error (.column column fault) := by
  obtain ⟨summary, s, hrun⟩ : ∃ summary s,
      run { parsers := KeyedList.empty.push chainParser } [] "now" (.image emptyImage "/kernel")
        { path := "/kernel", name := none, parsers := [] } (some Store.fresh) =
      (.ok summary, some s) := ⟨_, _, rfl⟩
  refine ⟨summary, s, hrun, ?_⟩
  have hall := (chronicle_run .fresh hrun).2 summary rfl
  have hhistory := History.run .fresh hrun
  rw [hall] at hhistory
  obtain ⟨hiff, hcolumn⟩ := loadBinary_of_history hhistory "kernel"
  have hfound : (chainParser.finding emptyImage).collector.types =
      KeyedList.empty.offer ⟨"list_head", chain Json.depthLimit, some "dwarf"⟩ :=
    Collector.types_absorbType .empty (e := ⟨"list_head", _, some "dwarf"⟩) (by decide)
  have hdeep : ¬ (chainParser.finding emptyImage).collector.IsShallow := by
    rw [Collector.isShallow_iff, hfound, KeyedList.offer, KeyedList.contains_empty]
    intro hshallow
    have hchain := List.forall_mem_singleton.1 hshallow.1
    rw [DataType.IsShallow, depth_chain] at hchain
    exact absurd hchain (by decide)
  cases hload : s.loadBinary "kernel" none with
  | ok c => exact absurd (hiff.1 ⟨c, hload⟩ _ (List.mem_singleton_self _)) hdeep
  | error e =>
    obtain ⟨column, fault, rfl⟩ := hcolumn e hload
    exact ⟨column, fault, rfl⟩

end Ingest

end DebugCatalog
