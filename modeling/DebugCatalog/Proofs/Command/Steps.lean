import DebugCatalog.Proofs.Command.FunctionLines
import DebugCatalog.Proofs.Project.Versions
import Mathlib.Logic.Relation

/-!
# What programs do to a disk

A program on a host reads, and it changes the disk by a few kinds of steps.  Programs that only
read leave a disk as it is, and the others lead from a disk to another by steps of those kinds.
Which files they write is part of what is said about the steps, so it can be said of a whole
program that it writes some files and no others.

* `Disk.Step`: what a host may do to a disk when files may be written only at some paths.
* `Leads`: wherever it is done, a program leads from a disk to one that is so related to it.
* `Ingest.leads_into`: an ingest writes no files at all, except for databases.
-/

namespace DebugCatalog

open Relation (ReflTransGen)

/-! ### Steps on a disk -/

/-- What a host does to a disk.  Files that are no databases are written only at such paths. -/
inductive Disk.Step (writes : String → Prop) (d : Disk) : Disk → Prop
  | write {path : String} {b : ByteArray} {d' : Disk} (hpath : writes path)
      (h : d.write path b = .ok d') : Step writes d d'
  | makeDirectory {path : String} {d' : Disk} (h : d.makeDirectory path = .ok d') :
      Step writes d d'
  | openStore {path : String} {o : Disk.Opened} {d' : Disk} (h : d.openStore path = .ok (d', o)) :
      Step writes d d'
  | loadStore {o : Disk.Opened} {s : Store} {d' : Disk} (h : d.loadStore o = .ok (d', s)) :
      Step writes d d'
  | saveStore {o : Disk.Opened} {s : Store} {d' : Disk} (h : d.saveStore o s = .ok d') :
      Step writes d d'
  | closeStore (o : Disk.Opened) : Step writes d (d.closeStore o)

/-- What a host does to a disk, one step after the other. -/
abbrev Disk.Steps (writes : String → Prop) : Disk → Disk → Prop :=
  ReflTransGen (Disk.Step writes)

theorem Disk.Step.mono {writes allowed : String → Prop} {d d' : Disk} (h : Disk.Step writes d d')
    (hallowed : ∀ path, writes path → allowed path) : Disk.Step allowed d d' := by
  cases h with
  | write hpath h => exact .write (hallowed _ hpath) h
  | makeDirectory h => exact .makeDirectory h
  | openStore h => exact .openStore h
  | loadStore h => exact .loadStore h
  | saveStore h => exact .saveStore h
  | closeStore o => exact .closeStore o

namespace OnDisk

variable {α β ε : Type} {R : Disk → Disk → Prop} {P : α → Prop}

/-- Wherever it is done, the program takes a disk to one that is so related to it. -/
def Leads (R : Disk → Disk → Prop) (x : OnDisk α) : Prop :=
  ∀ now d, R d (runOn x now d).2

theorem leads_reading [Std.Refl R] {x : OnDisk α} (h : ∀ now d, (runOn x now d).2 = d) :
    Leads R x := by
  intro now d
  rw [h]
  exact refl d

theorem leads_pure [Std.Refl R] (a : α) : Leads R (pure a) :=
  leads_reading fun _ _ => rfl

theorem leads_change [Std.Refl R] {f : Disk → Except ε (Disk × α)}
    (h : ∀ d d' a, f d = .ok (d', a) → R d d') : Leads R (change f) := by
  intro now d
  rw [runOn_change]
  cases hf : f d with
  | ok changed => exact h d changed.1 changed.2 hf
  | error e => exact refl d

theorem Leads.lift {x : OnDisk α} (h : Leads R x) :
    Leads R (monadLift x : ExceptT ε OnDisk α).run := by
  intro now d
  have hx : runOn x now d = ((runOn x now d).1, (runOn x now d).2) := rfl
  rw [runOn_lift hx]
  exact h now d

theorem Leads.bind [IsTrans Disk R] {x : OnDisk α} {f : α → OnDisk β} (hx : Leads R x)
    (hf : ∀ a, Leads R (f a)) : Leads R (x >>= f) := by
  intro now d
  have hfirst : runOn x now d = ((runOn x now d).1, (runOn x now d).2) := rfl
  rw [runOn_bind hfirst]
  exact Trans.trans (hx now d) (hf _ now _)

/-- What follows is not done after a failure. -/
theorem Leads.bind_run [IsTrans Disk R] {x : ExceptT ε OnDisk α} {f : α → ExceptT ε OnDisk β}
    (hP : Brings P x) (hx : Leads R x.run) (hf : ∀ a, P a → Leads R (f a).run) :
    Leads R (x >>= f).run := by
  intro now d
  obtain ⟨result, d', hfirst⟩ : ∃ result d', runOn x.run now d = (result, d') := ⟨_, _, rfl⟩
  have hlead : R d d' := by
    have h := hx now d
    rwa [hfirst] at h
  cases result with
  | ok a =>
    rw [runOn_bind_ok hfirst]
    exact Trans.trans hlead (hf a (hP now d a d' hfirst) now d')
  | error e =>
    rw [runOn_bind_error hfirst]
    exact hlead

theorem Leads.then_run [IsTrans Disk R] {x : ExceptT ε OnDisk α} {f : α → ExceptT ε OnDisk β}
    (hx : Leads R x.run) (hf : ∀ a, Leads R (f a).run) : Leads R (x >>= f).run :=
  hx.bind_run (P := fun _ => True) (fun _ _ _ _ _ => trivial) fun a _ => hf a

end OnDisk

open OnDisk (Brings Leads runOn)

section Reading

variable {R : Disk → Disk → Prop} [Std.Refl R] [IsTrans Disk R] {ε α : Type}

theorem Failure.leads_during {action : OnDisk (Except ε α)} (h : Leads R action)
    (tasks : List String) (cause : ε → Failure.Cause) :
    Leads R (Failure.during tasks cause action).run := by
  refine h.lift.then_run fun result => ?_
  cases result with
  | ok a => exact OnDisk.leads_pure _
  | error e => exact OnDisk.leads_pure _

/-! ### Programs that only read -/

theorem Project.leads_locate (root : String) : Leads R (Project.locate root) := by
  refine Leads.bind (OnDisk.leads_reading fun _ _ => rfl) fun current => ?_
  split
  · exact OnDisk.leads_pure _
  · refine Leads.bind (OnDisk.leads_reading fun _ _ => rfl) fun found => ?_
    cases found with
    | ok path => exact OnDisk.leads_pure _
    | error e => exact OnDisk.leads_pure _

theorem Project.leads_loadConfig (l : Layout) : Leads R (Project.loadConfig l).run :=
  (Failure.leads_during (OnDisk.leads_reading fun _ _ => rfl) _ _).then_run fun _ =>
    (Failure.leads_during (OnDisk.leads_pure _) _ _).then_run fun _ =>
      Failure.leads_during (OnDisk.leads_pure _) _ _

theorem leads_openImage (path : String) : Leads R (openImage path) :=
  Leads.bind (OnDisk.leads_reading fun _ _ => rfl) fun _ => OnDisk.leads_pure _

theorem Ingest.leads_recordedPath (root path : String) : Leads R (Ingest.recordedPath root path) :=
  Leads.bind (OnDisk.leads_reading fun _ _ => rfl) fun _ =>
    Leads.bind (OnDisk.leads_reading fun _ _ => rfl) fun _ => OnDisk.leads_pure _

theorem Ingest.leads_subjectAt (root : Option String) (path : String) :
    Leads R (Ingest.subjectAt root path) := by
  refine Leads.bind (OnDisk.leads_reading fun _ _ => rfl) fun there => ?_
  split
  · exact OnDisk.leads_pure _
  · refine (leads_openImage path).bind fun v => ?_
    cases v with
    | error e => exact OnDisk.leads_pure _
    | ok v =>
      cases root with
      | none => exact OnDisk.leads_pure _
      | some root => exact (Ingest.leads_recordedPath root path).bind fun _ => OnDisk.leads_pure _

theorem Ingest.leads_into_none (r : Registry) (request : Ingest.Request) :
    Leads R (Ingest.into (none : Option (Project OnDisk)) r request) :=
  (Ingest.leads_subjectAt none request.path).bind fun _ =>
    Leads.bind (OnDisk.leads_reading fun _ _ => rfl) fun _ => OnDisk.leads_pure _

end Reading

/-! ### Programs that write -/

section Writing

variable {writes : String → Prop}

theorem Host.leads_makeDirectory (path : String) :
    Leads (Disk.Steps writes) (Host.makeDirectory (m := OnDisk) path) := by
  refine OnDisk.leads_change fun d d' a h => ?_
  obtain ⟨made, hmade, h⟩ := exists_of_bind_eq_ok h
  cases h
  exact .single (.makeDirectory hmade)

theorem Host.leads_write {path : String} (hpath : writes path) (b : ByteArray) :
    Leads (Disk.Steps writes) (Host.write (m := OnDisk) path b) := by
  refine OnDisk.leads_change fun d d' a h => ?_
  obtain ⟨written, hwritten, h⟩ := exists_of_bind_eq_ok h
  cases h
  exact .single (.write hpath hwritten)

theorem Host.leads_openStore (path : String) :
    Leads (Disk.Steps writes) (Host.openStore (m := OnDisk) path) :=
  OnDisk.leads_change fun _ _ _ h => .single (.openStore h)

theorem Host.leads_loadStore (o : Disk.Opened) :
    Leads (Disk.Steps writes) (Host.loadStore (m := OnDisk) o) :=
  OnDisk.leads_change fun _ _ _ h => .single (.loadStore h)

theorem Host.leads_saveStore (o : Disk.Opened) (s : Store) :
    Leads (Disk.Steps writes) (Host.saveStore (m := OnDisk) o s) := by
  refine OnDisk.leads_change fun d d' a h => ?_
  obtain ⟨saved, hsaved, h⟩ := exists_of_bind_eq_ok h
  cases h
  exact .single (.saveStore hsaved)

theorem Host.leads_closeStore (o : Disk.Opened) :
    Leads (Disk.Steps writes) (Host.closeStore (m := OnDisk) o) :=
  fun _ _ => .single (.closeStore o)

theorem Host.leads_makeOrKeep (path : String) :
    Leads (Disk.Steps writes) (Host.makeOrKeep (m := OnDisk) path) := by
  refine (Host.leads_makeDirectory path).bind fun made => ?_
  cases made with
  | ok u => exact OnDisk.leads_pure _
  | error e =>
    exact Leads.bind (OnDisk.leads_reading fun _ _ => rfl) fun _ => OnDisk.leads_pure _

theorem Host.leads_makeWithParents (depth : Nat) (path : String) :
    Leads (Disk.Steps writes) (Host.makeWithParents (m := OnDisk) depth path) := by
  induction depth generalizing path with
  | zero => exact OnDisk.leads_pure _
  | succ depth ih =>
    refine (Host.leads_makeOrKeep path).bind fun made => ?_
    split
    · split
      · exact OnDisk.leads_pure _
      · next parent _ =>
        refine (ih parent).bind fun above => ?_
        split
        · exact Host.leads_makeOrKeep path
        · exact OnDisk.leads_pure _
    · exact OnDisk.leads_pure _

theorem Command.leads_makeReportsDir (l : Layout) :
    Leads (Disk.Steps writes) (Command.makeReportsDir (m := OnDisk) l).run :=
  Failure.leads_during (Host.leads_makeWithParents _ _) _ _

theorem Project.leads_migrateStore (o : Disk.Opened) :
    Leads (Disk.Steps writes) (Project.migrateStore (m := OnDisk) o) := by
  refine Leads.then_run (x := ExceptT.mk (Host.loadStore (m := OnDisk) o))
    (Host.leads_loadStore o) fun s => ?_
  refine Leads.then_run (x := ExceptT.mk (pure s.migrate)) (OnDisk.leads_pure _) fun t => ?_
  split
  · exact Host.leads_saveStore o t
  · exact OnDisk.leads_pure _

theorem Project.leads_openStore (path : String) :
    Leads (Disk.Steps writes) (Project.openStore (m := OnDisk) path) := by
  refine (Host.leads_openStore path).bind fun opened => ?_
  cases opened with
  | error e => exact OnDisk.leads_pure _
  | ok o =>
    refine (Project.leads_migrateStore o).bind fun migrated => ?_
    cases migrated with
    | ok u => exact OnDisk.leads_pure _
    | error e => exact (Host.leads_closeStore o).bind fun _ => OnDisk.leads_pure _

theorem Project.brings_load (root : String) :
    Brings (fun p => p.layout = Layout.of root) (Project.load (m := OnDisk) root) :=
  .after fun _ => .after fun _ => OnDisk.brings_pure rfl

theorem Project.leads_load (root : String) :
    Leads (Disk.Steps writes) (Project.load (m := OnDisk) root).run :=
  (Project.leads_loadConfig _).then_run fun _ =>
    (Failure.leads_during (Project.leads_openStore _) _ _).then_run fun _ => OnDisk.leads_pure _

theorem Ingest.leads_noteIn (p : Project OnDisk)
    (run : Option Store → Except Ingest.Error Ingest.Summary × Option Store) :
    Leads (Disk.Steps writes) (Ingest.noteIn p run) := by
  refine (Host.leads_loadStore p.database).bind fun loaded => ?_
  cases loaded with
  | error e => exact OnDisk.leads_pure _
  | ok s =>
    dsimp only
    split
    · exact OnDisk.leads_pure _
    · refine (Host.leads_saveStore p.database _).bind fun saved => ?_
      cases saved with
      | ok u => exact OnDisk.leads_pure _
      | error e => exact OnDisk.leads_pure _

theorem Ingest.leads_into (project : Option (Project OnDisk)) (r : Registry)
    (request : Ingest.Request) :
    Leads (Disk.Steps writes) (Ingest.into project r request) := by
  cases project with
  | none => exact Ingest.leads_into_none r request
  | some p =>
    refine (Ingest.leads_subjectAt _ request.path).bind fun subject => ?_
    refine Leads.bind (OnDisk.leads_reading fun _ _ => rfl) fun now => ?_
    dsimp only
    split
    · exact OnDisk.leads_pure _
    · exact Ingest.leads_noteIn p _

end Writing

end DebugCatalog
