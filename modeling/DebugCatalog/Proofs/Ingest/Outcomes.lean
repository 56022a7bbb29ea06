import DebugCatalog.Proofs.Ingest.Persisting

/-!
# What an ingest reports and what it records

An ingest reports an outcome for each parser and gives back the numbers of its runs.  The two are
made apart: a run is recorded before its findings are merged, and the outcome is made after.
`agrees_of_run` says that they go together one by one (`Agrees`), whether the parser finished,
failed or broke down, and also if one parser ran twice.

* `recordReports_outcome`: the record of a finding says the same as its outcome, whatever was
  merged before.
* `Recorded.forall₂_loaded`: what is loaded of a run is what it found.

No type may be too deep for a text, or else the findings of its run cannot be loaded.
-/

namespace DebugCatalog

/-- Each number is that of a run whose findings can be loaded. -/
theorem Store.Recorded.forall₂_loaded {s s' : Store} {rs : List (RunRecord × Collector)}
    {ids : List Int} (h : Recorded s rs ids s') (hs : s.Reached) (hsound : ∀ r ∈ rs, r.2.Sound)
    (hshallow : ∀ r ∈ rs, r.2.IsShallow) :
    List.Forall₂ (fun id r => s'.run? id = some (.ofRecord r.1) ∧
      ∃ c, s'.loadFindings id = .ok c ∧ c.CreditedTo r.1.parser r.2) ids rs := by
  obtain ⟨loaded, hload, hcredited⟩ := h.exists_loaded hs hsound hshallow
  have hfound : List.Forall₂ (fun id r => ∃ c, s'.loadFindings id = .ok c ∧
      c.CreditedTo r.1.parser r.2) ids rs :=
    forall₂_comp (fun id c r hc hr => ⟨c, hc, hr⟩) (forall₂_of_mapM hload) hcredited
  exact List.Forall₂.mp (fun id r hrun hc => ⟨hrun, hc⟩) h.forall₂_run? hfound

namespace Ingest

open Store (Recorded)

variable {r : Registry} {defaults : List String} {now : String} {subject : Subject}
  {request : Request} {s : Store} {summary : Summary}

/-! ### Records, findings and outcomes -/

/-- The record of a run over a binary says what an outcome says.  Its counts are words. -/
structure RecordReports (record : RunRecord) (binary : String) (o : Outcome) : Prop where
  binary : record.binary = binary
  parser : record.parser = o.parser
  status : record.status = .failed ↔ o.error ≠ none
  message : record.message = o.error
  types : record.typesAdded = UInt64.ofNat o.typesFound
  functions : record.functionsAdded = UInt64.ofNat o.functionsFound

/-- A collector has as many entries as an outcome says, all from its parser. -/
structure HasFound (c : Collector) (o : Outcome) : Prop where
  types : c.typeCount = o.typesFound
  functions : c.functionCount = o.functionsFound
  source : c.IsFrom o.parser

/-- Under its number a store has the run of an outcome and what it found. -/
def Agrees (s : Store) (binary : String) (id : Int) (o : Outcome) : Prop :=
  ∃ row record found, s.run? id = some row ∧ row.toRecord = .ok record ∧
    s.loadFindings id = .ok found ∧ RecordReports record binary o ∧ HasFound found o

/-- What was merged before a finding has no part in its record. -/
theorem recordReports_outcome (binary now : String) (f : Finding) (n : MergeCount) :
    RecordReports (runRecord binary now f) binary (f.outcome n) where
  binary := rfl
  parser := rfl
  status := by
    change (if f.error.isSome then RunStatus.failed else .succeeded) = .failed ↔
      f.error.map Parser.Error.message ≠ none
    cases f.error with
    | none => exact iff_of_false (by decide) fun h => h rfl
    | some e => exact iff_of_true rfl (Option.some_ne_none _)
  message := rfl
  types := rfl
  functions := rfl

theorem hasFound_outcome {c : Collector} {f : Finding}
    (h : c.CreditedTo f.parser.name f.collector) (n : MergeCount) : HasFound c (f.outcome n) :=
  ⟨h.typeCount_eq, h.functionCount_eq, h.isFrom⟩

theorem forall₂_outcome_runParsers (parsers : List Parser) (v : Image) :
    List.Forall₂ (fun p o => ∃ n, o = (p.finding v).outcome n) parsers (runParsers parsers v).2 :=
  forall₂_runParsersOnto _ v (fun _ n => ⟨n, rfl⟩) .empty parsers

/-! ### A whole ingest -/

theorem Entered.name_eq {b known : BinaryRecord} {entered : Store}
    (h : Entered s b known entered) : known.name = b.name := by
  cases h with
  | known _ _ hname => exact hname
  | new => rfl

theorem eq_image_of_image? {v : Image} {path recorded : String}
    (h : subject.image? path = .ok (v, recorded)) : subject = .image v recorded := by
  cases subject with
  | missing => cases h
  | unreadable cause => cases h
  | image w other =>
    cases h
    rfl

/-- **Runs agree with the outcomes that are reported**, one by one, and the record of the binary
is the one that the store had, or a new row if it had none of this name. -/
theorem agrees_of_run (hs : Ingested s) {after : Option Store}
    (h : run r defaults now subject request (some s) = (.ok summary, after))
    (hshallow : ∀ told ∈ planned r defaults now subject request, told.2.IsShallow) :
    ∃ s', after = some s' ∧
      List.Forall₂ (Agrees s' summary.binary.name) summary.runs summary.outcomes ∧
      ∃ v path entered, subject = .image v path ∧
        Entered s (recordFor request v path) summary.binary entered ∧
          s'.binaries = entered.binaries := by
  obtain ⟨v, path, parsers, binary, entered, s', ids, hprepare, rfl, hentered, hrecorded, rfl⟩ :=
    exists_stages_of_run h
  refine ⟨s', rfl, ?_, v, path, entered, eq_image_of_image? (eq_of_prepare hprepare).1, hentered,
    hrecorded.binaries_eq⟩
  have hplanned : ∀ told ∈ parsers.map (recordOf (request.name.getD v.name) now v),
      told.2.IsShallow := by
    rw [planned_of_prepare hprepare] at hshallow
    exact hshallow
  have hloaded := hrecorded.forall₂_loaded
    (reached_of_entered hs.reached hentered.eq_or_insertBinary)
    (List.forall_mem_map.2 fun p _ => Collector.sound_finding p v) hplanned
  have hname : binary.name = request.name.getD v.name := hentered.name_eq
  refine forall₂_comp ?_ (List.forall₂_map_right_iff.1 hloaded)
    (forall₂_outcome_runParsers parsers v)
  rintro id p o ⟨hrun, found, hfound, hcredited⟩ ⟨n, rfl⟩
  refine ⟨_, _, found, hrun, StoredRun.toRecord_ofRecord _, hfound, ?_,
    hasFound_outcome hcredited n⟩
  change RecordReports _ binary.name _
  rw [hname]
  exact recordReports_outcome _ now (p.finding v) n

/-- Two parsers that find the same function, of which the first fails then. -/
def failingAndFinding : Registry where
  parsers := (KeyedList.empty.push failingParser).push (finder 1 "dwarf" Store.lastFunction)

theorem agrees_of_run_failingAndFinding : ∃ summary s,
    run failingAndFinding [] "now" (.image emptyImage "/kernel") (emptyRequest [])
        (some Store.fresh) = (.ok summary, some s) ∧
      summary.runs = [1, 2] ∧ summary.outcomes.map Outcome.succeeded = [false, true] ∧
      List.Forall₂ (Agrees s summary.binary.name) summary.runs summary.outcomes := by
  obtain ⟨summary, s, hrun, hruns, hsucceeded⟩ : ∃ summary s,
      run failingAndFinding [] "now" (.image emptyImage "/kernel") (emptyRequest [])
          (some Store.fresh) = (.ok summary, some s) ∧
        summary.runs = [1, 2] ∧ summary.outcomes.map Outcome.succeeded = [false, true] :=
    ⟨_, _, rfl, rfl, rfl⟩
  have hplanned : planned failingAndFinding [] "now" (.image emptyImage "/kernel")
      (emptyRequest []) = [recordOf "kernel" "now" emptyImage failingParser,
        recordOf "kernel" "now" emptyImage (finder 1 "dwarf" Store.lastFunction)] := rfl
  have hshallow : ∀ source, ((Collector.empty.crediting source).addFunction
      Store.lastFunction).IsShallow := fun source =>
    (Collector.isShallow_empty.crediting source).addFunction Store.isShallow_lastFunction
  obtain ⟨left, hleft, hagree, -⟩ := agrees_of_run .fresh hrun (by
    rw [hplanned]
    exact List.forall_mem_cons.2 ⟨(hshallow _).crediting _,
      List.forall_mem_singleton.2 ((hshallow _).crediting _)⟩)
  obtain rfl := Option.some.inj hleft
  exact ⟨summary, s, hrun, hruns, hsucceeded, hagree⟩

end Ingest

end DebugCatalog
