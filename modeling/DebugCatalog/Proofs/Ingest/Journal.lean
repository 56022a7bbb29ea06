import DebugCatalog.Proofs.Ingest.Stages
import DebugCatalog.Proofs.Parser.Accounts
import DebugCatalog.Proofs.Store.Merging

/-!
# What an ingest does to a store

An ingest notes its binary, if it is new, and then records one run after the other.
`run_spec` says so of every ingest in a project, whether it succeeds or stops
half-way.  When it succeeds, the runs are those of the parsers that were selected,
and what is given back is their findings, merged in that order.
-/

namespace DebugCatalog

namespace Ingest

open Store (Recorded)

variable {s s' : Store}

/-- What is merged in an ingest are the collectors that it records. -/
theorem runParsers_recordOf (name now : String) (v : Image) (parsers : List Parser) :
    (runParsers parsers v).1 = ((parsers.map (recordOf name now v)).map Prod.snd).foldl
      (fun merged c => (merged.merge c).1) .empty := by
  rw [runParsers_merged, Collector.mergeAll, ownCollectors, List.map_map]
  rfl

/-- The runs that are recorded are of the binary that was entered. -/
theorem Entered.knows_of_planned {r : Registry} {defaults : List String} {now : String}
    {subject : Subject} {request : Request} {v : Image} {path : String} {parsers : List Parser}
    {known : BinaryRecord} {entered : Store}
    (h : Entered s (recordFor request v path) known entered)
    (hprepare : prepare r defaults subject request = .ok (v, path, parsers)) :
    ∀ told ∈ planned r defaults now subject request, entered.Knows told.1.binary := by
  intro told htold
  rw [planned_of_prepare hprepare] at htold
  obtain ⟨p, -, rfl⟩ := List.mem_map.1 htold
  exact h.knows

/-- What an ingest does in a project.  It records the runs that were planned, from the first
on, and all of them if it succeeds.  Their binary is known before the first of them. -/
theorem run_planned (r : Registry) (defaults : List String) (now : String) (subject : Subject)
    (request : Request) (s : Store) : ∃ result entered s' rs ids,
    run r defaults now subject request (some s) = (result, some s') ∧
      (entered = s ∨ ∃ b id, s.insertBinary b = .ok (entered, id)) ∧
      Recorded entered rs ids s' ∧ rs <+: planned r defaults now subject request ∧
      (∀ told ∈ rs, entered.Knows told.1.binary) ∧
      ∀ summary, result = .ok summary → ∃ v path parsers,
        subject.image? request.path = .ok (v, path) ∧
          select r defaults v request.parsers = .ok parsers ∧
          rs = parsers.map (recordOf (request.name.getD v.name) now v) ∧
          summary.collector =
            (rs.map Prod.snd).foldl (fun merged c => (merged.merge c).1) .empty := by
  cases hrun : run r defaults now subject request (some s) with
  | mk result after =>
    cases result with
    | ok summary =>
      obtain ⟨v, path, parsers, binary, entered, s', ids, hprepare, rfl, hentered, hrecorded,
        rfl⟩ := exists_stages_of_run hrun
      obtain ⟨himage, hselect⟩ := eq_of_prepare hprepare
      have hplanned : planned r defaults now subject request = _ := planned_of_prepare hprepare
      refine ⟨_, entered, s', _, ids, rfl, hentered.eq_or_insertBinary, hrecorded, ?_, ?_, ?_⟩
      · exact ⟨[], by rw [List.append_nil, hplanned]⟩
      · rw [← hplanned]
        exact hentered.knows_of_planned hprepare
      · rintro summary ⟨rfl⟩
        exact ⟨v, path, parsers, himage, hselect, rfl, runParsers_recordOf _ now v parsers⟩
    | error e =>
      obtain ⟨s', rfl, hstopped⟩ := stoppedAt_of_run hrun
      cases hstopped with
      | preparing =>
        exact ⟨_, s, s, [], [], rfl, .inl rfl, .nil s, List.nil_prefix, nofun, nofun⟩
      | entering =>
        exact ⟨_, s, s, [], [], rfl, .inl rfl, .nil s, List.nil_prefix, nofun, nofun⟩
      | recording hprepare hentered hplan hrecorded _ =>
        have hnoted : _ <+: planned r defaults now subject request := ⟨_, hplan.symm⟩
        exact ⟨_, _, s', _, _, rfl, hentered.eq_or_insertBinary, hrecorded, hnoted,
          fun told htold => hentered.knows_of_planned hprepare told (hnoted.subset htold), nofun⟩

/-- **What an ingest does in a project.** -/
theorem run_spec (r : Registry) (defaults : List String) (now : String) (subject : Subject)
    (request : Request) (s : Store) : ∃ result entered s' rs ids,
    run r defaults now subject request (some s) = (result, some s') ∧
      (entered = s ∨ ∃ b id, s.insertBinary b = .ok (entered, id)) ∧
      Recorded entered rs ids s' ∧
      ∀ summary, result = .ok summary → ∃ v path parsers,
        subject.image? request.path = .ok (v, path) ∧
          select r defaults v request.parsers = .ok parsers ∧
          rs = parsers.map (recordOf (request.name.getD v.name) now v) ∧
          summary.collector =
            (rs.map Prod.snd).foldl (fun merged c => (merged.merge c).1) .empty := by
  obtain ⟨result, entered, s', rs, ids, hrun, hentered, hrecorded, -, -, hok⟩ :=
    run_planned r defaults now subject request s
  exact ⟨result, entered, s', rs, ids, hrun, hentered, hrecorded, hok⟩

end Ingest

end DebugCatalog
