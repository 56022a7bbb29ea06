import DebugCatalog.Proofs.Collector.FirstWins
import DebugCatalog.Proofs.Store.Chronicle

/-!
# The last runs of a chronicle

What is known of a binary is what the last run of each parser found, and `Store.loadBinary`
finds these runs by their numbers.  Here the same runs are picked from the chronicle of the
store, where nothing has a number: `lastRuns` and `lastRun?`.

* `Chronicle.exists_currentRuns`: both ways pick the same runs in the same order.
* `Chronicle.loadBinary_eq`: if no type was too deep, what is loaded is what these runs found,
  each credited to its parser and merged in that order.
* `Chronicle.isOk_loadBinary_iff`: a binary can be loaded exactly if none of these runs found a
  type that is too deep.  What earlier runs found is of no importance.
* `Chronicle.eq_column_of_loadBinary`: otherwise it is a text that cannot be read, and never
  a run that is missing.

`loadBinary_of_chronicle` puts this together.
-/

namespace DebugCatalog

theorem Collector.mergeAll_congr {cs ds : List Collector}
    (h : List.Forall₂ Collector.SameEntries cs ds) : mergeAll cs = mergeAll ds :=
  foldl_merge_congr h .empty

namespace Store

variable {s : Store} {rs : List (RunRecord × Collector)}

/-! ### Runs picked from a chronicle -/

/-- The runs over a binary after which their parser did not run over it again. -/
def lastRuns (binary : String) : List (RunRecord × Collector) → List (RunRecord × Collector)
  | [] => []
  | r :: later =>
    if r.1.binary = binary ∧ ∀ l ∈ later, l.1.binary = binary → l.1.parser ≠ r.1.parser then
      r :: lastRuns binary later
    else lastRuns binary later

/-- The last run of a parser over a binary. -/
def lastRun? (binary parser : String) (rs : List (RunRecord × Collector)) :
    Option (RunRecord × Collector) :=
  (rs.filter fun r => r.1.binary == binary && r.1.parser == parser).getLast?

/-- The runs that count, of all parsers or of one. -/
def countingRuns (binary : String) (rs : List (RunRecord × Collector)) :
    Option String → List (RunRecord × Collector)
  | none => lastRuns binary rs
  | some parser => (lastRun? binary parser rs).toList

theorem lastRuns_sublist (binary : String) (rs : List (RunRecord × Collector)) :
    (lastRuns binary rs).Sublist rs := by
  induction rs with
  | nil => exact .slnil
  | cons r rs ih =>
    rw [lastRuns]
    split
    · exact ih.cons_cons r
    · exact ih.cons r

theorem mem_of_mem_countingRuns {binary : String} {parser : Option String}
    {r : RunRecord × Collector} (h : r ∈ countingRuns binary rs parser) : r ∈ rs := by
  cases parser with
  | none => exact (lastRuns_sublist binary rs).subset h
  | some parser =>
    have hlast : lastRun? binary parser rs = some r := Option.mem_toList.1 h
    exact (List.mem_filter.1 (List.mem_of_getLast? hlast)).1

/-! ### Runs picked from the rows -/

variable {rows : List (Int × StoredRun)} {binary : String}

/-- A number stands for a run. -/
def Recalls (s : Store) (id : Int) (r : RunRecord × Collector) : Prop :=
  s.loadFindings id = retell id r

theorem Tells.recalls {row : Int × StoredRun} {r : RunRecord × Collector} (h : Tells s row r) :
    Recalls s row.1 r := h.found

/-- Whether a parser runs later over the binary can be told from the rows. -/
theorem any_parser_eq (hrows : List.Forall₂ (Tells s) rows rs) (binary parser : String) :
    (((rows.filter fun row => row.2.binary == binary).map fun row => (row.1, row.2.parser)).any
        fun x => x.2 == parser) =
      rs.any fun r => r.1.binary == binary && r.1.parser == parser := by
  have hrecords : rows.map Prod.snd = rs.map fun r => StoredRun.ofRecord r.1 := by
    rw [← List.forall₂_eq_eq_eq, List.forall₂_map_left_iff, List.forall₂_map_right_iff]
    exact hrows.imp fun row r h => h.record
  have hrun : (((rows.filter fun row => row.2.binary == binary).map
      fun row => (row.1, row.2.parser)).any fun x => x.2 == parser) =
      (rows.map Prod.snd).any fun run => run.binary == binary && run.parser == parser := by
    rw [List.any_map, List.any_filter, List.any_map]
    rfl
  rw [hrun, hrecords, List.any_map]
  rfl

theorem forall₂_lastOfEach (hrows : List.Forall₂ (Tells s) rows rs) (binary : String) :
    List.Forall₂ (Recalls s)
      ((lastOfEach ((rows.filter fun row => row.2.binary == binary).map
        fun row => (row.1, row.2.parser))).map Prod.fst)
      (lastRuns binary rs) := by
  induction hrows with
  | nil => exact .nil
  | @cons row r rows rs hrow hrest ih =>
    have hbinary : row.2.binary = r.1.binary := by rw [hrow.record]; rfl
    have hparser : row.2.parser = r.1.parser := by rw [hrow.record]; rfl
    have hany : ((((rows.filter fun row => row.2.binary == binary).map
          fun row => (row.1, row.2.parser)).any fun x => x.2 == row.2.parser) = true) ↔
        ¬ ∀ l ∈ rs, l.1.binary = binary → l.1.parser ≠ r.1.parser := by
      rw [any_parser_eq hrest, hparser]
      simp
    rw [List.filter_cons, lastRuns, hbinary]
    by_cases hb : r.1.binary = binary
    · rw [if_pos (beq_iff_eq.2 hb), List.map_cons, lastOfEach]
      by_cases hlater : ∀ l ∈ rs, l.1.binary = binary → l.1.parser ≠ r.1.parser
      · rw [if_neg (fun h => hany.1 h hlater), if_pos ⟨hb, hlater⟩]
        exact .cons hrow.recalls ih
      · rw [if_pos (hany.2 hlater), if_neg (fun h => hlater h.2)]
        exact ih
    · rw [if_neg (by rwa [beq_iff_eq]), if_neg (fun h => hb h.1)]
      exact ih

theorem forall₂_lastRun? (hrows : List.Forall₂ (Tells s) rows rs) (binary parser : String) :
    List.Forall₂ (Recalls s)
      (((rows.filter fun row => row.2.binary == binary && row.2.parser == parser).getLast?.map
        Prod.fst).toList)
      (lastRun? binary parser rs).toList := by
  have hmatch : ∀ row r, Tells s row r →
      ((row.2.binary == binary && row.2.parser == parser) = true ↔
        (r.1.binary == binary && r.1.parser == parser) = true) := by
    intro row r h
    rw [h.record]
    rfl
  have hlast := forall₂_getLast? (List.rel_filter hmatch hrows)
  rw [Option.toList_map, List.forall₂_map_left_iff]
  exact hlast.imp fun row r h => h.recalls

namespace Chronicle

/-- The runs that count are those that the chronicle has last. -/
theorem exists_currentRuns (h : Chronicle rs s) (binary : String) (parser : Option String) :
    ∃ ids, s.currentRuns binary parser = .ok ids ∧
      List.Forall₂ (Recalls s) ids (countingRuns binary rs parser) := by
  obtain ⟨t, ht, hrows⟩ := h.exists_rows
  cases parser with
  | none =>
    refine ⟨_, ?_, forall₂_lastOfEach hrows binary⟩
    rw [currentRuns, latestRuns, need_eq_ok_iff.2 ht]
    rfl
  | some parser =>
    refine ⟨_, ?_, forall₂_lastRun? hrows binary parser⟩
    rw [currentRuns, latestRun?, need_eq_ok_iff.2 ht]
    rfl

/-! ### Loading -/

theorem sound_of_counting (h : Chronicle rs s) {binary : String} {parser : Option String}
    {r : RunRecord × Collector} (hr : r ∈ countingRuns binary rs parser) : r.2.Sound :=
  h.sound r (mem_of_mem_countingRuns hr)

/-- If no type was too deep, what the runs found is merged in the order of these runs. -/
theorem loadBinary_eq (h : Chronicle rs s) {binary : String} {parser : Option String}
    (hshallow : ∀ r ∈ countingRuns binary rs parser, r.2.IsShallow) :
    s.loadBinary binary parser =
      .ok (Collector.mergeAll
        ((countingRuns binary rs parser).map fun r => r.2.creditedTo r.1.parser)) := by
  obtain ⟨ids, hids, hrecalls⟩ := h.exists_currentRuns binary parser
  have hboth : List.Forall₂ (fun id r => ∃ c, s.loadFindings id = .ok c ∧
      c.SameEntries (r.2.creditedTo r.1.parser)) ids (countingRuns binary rs parser) := by
    have hright := (List.forall₂_and_left _ _).2
      ⟨fun r hr => And.intro (h.sound_of_counting hr) (hshallow r hr), hrecalls.flip⟩
    refine hright.flip.imp ?_
    rintro id r ⟨⟨hsound, hr⟩, hrecall⟩
    rw [hrecall]
    exact retell_eq_ok hsound hr id
  obtain ⟨found, hfound, hsame⟩ := exists_mapM_of_forall₂ hboth
  rw [loadBinary, hids]
  change (ids.mapM s.loadFindings >>= _) = _
  rw [hfound]
  exact congrArg Except.ok (Collector.mergeAll_congr (List.forall₂_map_right_iff.2 hsame))

/-- **A binary can be loaded exactly if no type of the runs that count is too deep.** -/
theorem isOk_loadBinary_iff (h : Chronicle rs s) (binary : String) (parser : Option String) :
    (∃ c, s.loadBinary binary parser = .ok c) ↔
      ∀ r ∈ countingRuns binary rs parser, r.2.IsShallow := by
  obtain ⟨ids, hids, hrecalls⟩ := h.exists_currentRuns binary parser
  constructor
  · rintro ⟨c, hload⟩
    rw [loadBinary, hids] at hload
    change (ids.mapM s.loadFindings >>= _) = _ at hload
    obtain ⟨found, hfound, -⟩ := exists_of_bind_eq_ok hload
    refine (exists_mapM_iff_of_forall₂ (hrecalls.imp ?_)).1 ⟨found, hfound⟩
    intro id r hrecall
    rw [hrecall]
    exact isOk_retell_iff id r
  · intro hshallow
    exact ⟨_, h.loadBinary_eq hshallow⟩

/-- Whatever a load fails for is a text that cannot be read. -/
theorem eq_column_of_loadBinary (h : Chronicle rs s) {binary : String} {parser : Option String}
    {e : StoreError} (hload : s.loadBinary binary parser = .error e) :
    ∃ column fault, e = .column column fault := by
  obtain ⟨ids, hids, hrecalls⟩ := h.exists_currentRuns binary parser
  rw [loadBinary, hids] at hload
  change (ids.mapM s.loadFindings >>= _) = _ at hload
  rcases eq_error_of_bind hload with hfailed | ⟨found, -, hdone⟩
  · obtain ⟨id, hid, hfault⟩ := exists_error_of_mapM hfailed
    obtain ⟨r, -, hrecall⟩ := exists_of_forall₂ hrecalls hid
    rw [hrecall] at hfault
    exact eq_column_of_assemble hfault
  · cases hdone

theorem loadBinary_ne_unknownRun (h : Chronicle rs s) (binary : String) (parser : Option String)
    (run : Int) : s.loadBinary binary parser ≠ .error (.unknownRun run) := by
  intro hload
  obtain ⟨column, fault, heq⟩ := h.eq_column_of_loadBinary hload
  cases heq

end Chronicle

theorem parser_of_lastRun? {binary parser : String} {r : RunRecord × Collector}
    (h : lastRun? binary parser rs = some r) : r.1.parser = parser := by
  have hmatch := (List.mem_filter.1 (List.mem_of_getLast? h)).2
  exact eq_of_beq (Bool.and_eq_true_iff.1 hmatch).2

/-- **What is loaded of a binary is what the last runs of its chronicle found**: of all
parsers, merged in the order of these runs, or of one parser alone. -/
theorem loadBinary_of_chronicle (h : Chronicle rs s) (binary : String) :
    ((∀ r ∈ rs, r.2.IsShallow) →
      s.loadBinary binary none =
          .ok (Collector.mergeAll
            ((lastRuns binary rs).map fun r => r.2.creditedTo r.1.parser)) ∧
        ∀ parser, ∃ loaded, s.loadBinary binary (some parser) = .ok loaded ∧ loaded.Sound ∧
          loaded.SameEntries
            (((lastRun? binary parser rs).map fun r => r.2.creditedTo parser).getD .empty)) ∧
      ∀ parser run, s.loadBinary binary parser ≠ .error (.unknownRun run) := by
  refine ⟨fun hshallow => ?_, h.loadBinary_ne_unknownRun binary⟩
  have hcounting : ∀ parser, ∀ r ∈ countingRuns binary rs parser, r.2.IsShallow :=
    fun parser r hr => hshallow r (mem_of_mem_countingRuns hr)
  refine ⟨h.loadBinary_eq (hcounting none), fun parser => ?_⟩
  refine ⟨_, h.loadBinary_eq (hcounting (some parser)), Collector.sound_mergeAll _, ?_⟩
  rw [countingRuns]
  cases hlast : lastRun? binary parser rs with
  | none => exact ⟨rfl, rfl⟩
  | some r =>
    have hparser := parser_of_lastRun? hlast
    have hmem : r ∈ countingRuns binary rs (some parser) := Option.mem_toList.2 hlast
    have hsound := h.sound r (mem_of_mem_countingRuns hmem)
    rw [Option.toList_some, List.map_singleton, hparser]
    exact (hsound.creditedTo parser).sameEntries_mergeAll

/-- A run over another binary, in which nothing was found. -/
def otherRun : RunRecord :=
  { lastRun with binary := "driver", functionsAdded := 0 }

theorem loadBinary_of_chronicle_otherRun : ∃ s,
    Chronicle [(lastRun, Collector.empty.addFunction lastFunction), (otherRun, .empty)] s ∧
      s.loadBinary "kernel" none =
        .ok (Collector.mergeAll
          [(Collector.empty.addFunction lastFunction).creditedTo "symtab"]) ∧
      (∃ loaded, s.loadBinary "kernel" (some "dwarf") = .ok loaded ∧
        loaded.SameEntries .empty) ∧
      s.loadBinary "driver" none ≠ .error (.unknownRun 1) := by
  obtain ⟨recorded, id, hrecord⟩ : ∃ s id,
      fresh.recordRun lastRun (Collector.empty.addFunction lastFunction) = .ok (s, id) :=
    ⟨_, _, rfl⟩
  obtain ⟨s, other, hnote⟩ : ∃ s id, recorded.insertRun otherRun = .ok (s, id) := by
    obtain ⟨noted, hnoted, hwritten⟩ := recordRun_eq_ok_iff.1 hrecord
    cases hnoted
    exact ⟨_, _, insertRun_eq_ok_iff.2 ⟨_, runs_of_writeFindings hwritten, by decide, rfl, rfl⟩⟩
  have hchronicle : Chronicle
      [(lastRun, Collector.empty.addFunction lastFunction), (otherRun, .empty)] s :=
    .insertRun (.recordRun .fresh (.addFunction .empty lastFunction) hrecord) hnote
  have hshallow : ∀ r ∈ [(lastRun, Collector.empty.addFunction lastFunction),
      (otherRun, Collector.empty)], r.2.IsShallow :=
    List.forall_mem_cons.2 ⟨Collector.isShallow_empty.addFunction isShallow_lastFunction,
      List.forall_mem_singleton.2 Collector.isShallow_empty⟩
  obtain ⟨hkernel, -⟩ := loadBinary_of_chronicle hchronicle "kernel"
  obtain ⟨hall, hone⟩ := hkernel hshallow
  obtain ⟨loaded, hload, -, hsame⟩ := hone "dwarf"
  exact ⟨s, hchronicle, hall, ⟨loaded, hload, hsame⟩,
    (loadBinary_of_chronicle hchronicle "driver").2 none 1⟩

end Store

end DebugCatalog
