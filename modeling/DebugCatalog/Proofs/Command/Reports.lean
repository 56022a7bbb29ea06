import DebugCatalog.Proofs.Command.Steps
import DebugCatalog.Proofs.Ingest.Outcomes
import DebugCatalog.Proofs.Path

/-!
# Where reports are written

A report is named after its binary, and the name may come from the command line.  Here `parse` is
followed through everything that it asks of a disk.

* `Ingest.brings_into`: a binary that was given a name has it in the summary, also if it was known.
* `components_reportPath`: a report is in the reports directory itself.
* `onlyReports_parseBinary`: `parse` writes files at the path of its report and nowhere else.
* `reports_of_parseBinary`: names of the command line are turned away, or their reports are in the
  reports directory and have paths of their own.
-/

namespace DebugCatalog

open OnDisk (Brings Leads runOn)
open Relation (ReflTransGen)

/-! ### Names -/

/-- The summary of an ingest has the name that was asked for, also if the binary was known. -/
theorem Ingest.name_of_run {r : Registry} {defaults : List String} {now name : String}
    {subject : Ingest.Subject} {request : Ingest.Request} {store : Option Store}
    {summary : Ingest.Summary} (hname : request.name = some name)
    (h : (Ingest.run r defaults now subject request store).1 = .ok summary) :
    summary.binary.name = name := by
  obtain ⟨runs, hexec⟩ := Ingest.exists_exec_of_run (Prod.ext h rfl)
  obtain ⟨v, path, parsers, binary, j, -, henter, -, rfl⟩ :=
    Ingest.exists_steps_of_exec_action hexec
  have hrecord : (Ingest.recordFor request v path).name = name := by
    rw [Ingest.recordFor, hname]
    rfl
  change binary.name = name
  cases store with
  | none =>
    rw [Ingest.exec_enter_none] at henter
    cases henter
    exact hrecord
  | some s =>
    rcases Ingest.exec_enter_cases (Ingest.recordFor request v path) s [] with
      ⟨known, entered, hentering, hentered⟩ | ⟨cause, hentering, -⟩
    · rw [henter] at hentering
      cases hentering
      exact hentered.name_eq.trans hrecord
    · rw [henter] at hentering
      cases hentering

theorem Ingest.exists_of_noteIn {p : Project OnDisk} {now : String} {d d' : Disk}
    {run : Option Store → Except Ingest.Error Ingest.Summary × Option Store}
    {summary : Ingest.Summary} (h : runOn (Ingest.noteIn p run) now d = (.ok summary, d')) :
    ∃ s, (run (some s)).1 = .ok summary := by
  obtain ⟨loaded, d₁, hload⟩ : ∃ loaded d₁,
      runOn (Host.loadStore (m := OnDisk) p.database) now d = (loaded, d₁) := ⟨_, _, rfl⟩
  rw [Ingest.noteIn, OnDisk.runOn_bind hload] at h
  cases loaded with
  | error e => cases h
  | ok s =>
    dsimp only at h
    split at h
    · exact ⟨s, congrArg Prod.fst h⟩
    · obtain ⟨saved, d₂, hsave⟩ : ∃ saved d₂, runOn (Host.saveStore (m := OnDisk) p.database
        ((run (some s)).2.getD s)) now d₁ = (saved, d₂) := ⟨_, _, rfl⟩
      rw [OnDisk.runOn_bind hsave] at h
      cases saved with
      | ok u => exact ⟨s, congrArg Prod.fst h⟩
      | error e => cases h

theorem Ingest.runOn_into_none {subject : Ingest.Subject} {now : String} {d d' : Disk}
    (r : Registry) (request : Ingest.Request)
    (h : runOn (Ingest.subjectAt (m := OnDisk) none request.path) now d = (subject, d')) :
    runOn (Ingest.into (none : Option (Project OnDisk)) r request) now d =
      ((Ingest.run r [] now subject request none).1, d') :=
  OnDisk.runOn_bind h

theorem Ingest.brings_into {request : Ingest.Request} {name : String}
    (hname : request.name = some name) (project : Option (Project OnDisk)) (r : Registry) :
    Brings (fun summary => summary.binary.name = name)
      (ExceptT.mk (Ingest.into project r request)) := by
  intro now d summary d' hrun
  obtain ⟨subject, d₁, hsubject⟩ : ∃ subject d₁, runOn (Ingest.subjectAt (m := OnDisk)
    (project.map fun p => p.layout.root) request.path) now d = (subject, d₁) := ⟨_, _, rfl⟩
  change runOn (Ingest.into project r request) now d = _ at hrun
  rw [Ingest.into, OnDisk.runOn_bind hsubject,
    OnDisk.runOn_bind (show runOn (Host.now (m := OnDisk)) now d₁ = (now, d₁) from rfl)] at hrun
  cases project with
  | none => exact Ingest.name_of_run hname (congrArg Prod.fst hrun)
  | some p =>
    dsimp only at hrun
    split at hrun
    · cases hrun
    · obtain ⟨s, hs⟩ := Ingest.exists_of_noteIn hrun
      exact Ingest.name_of_run hname hs

/-! ### Paths of reports -/

namespace ReportFormat

theorem length_name (f : ReportFormat) : f.name.toList.length = 4 := by
  cases f <;> rfl

theorem slash_notMem_name (f : ReportFormat) : '/' ∉ f.name.toList := by
  cases f <;> decide

theorem name_inj {f g : ReportFormat} : f.name = g.name ↔ f = g := by
  cases f <;> cases g <;> decide

end ReportFormat

namespace Command

variable {name other : String}

theorem slash_notMem_of_isFileName (h : isFileName name = true) : '/' ∉ name.toList := by
  intro hslash
  rw [isFileName, Bool.and_eq_true, Bool.not_eq_true', List.any_eq_false] at h
  exact h.2 '/' hslash rfl

theorem isFileName_reportFile (h : isFileName name = true) (f : ReportFormat) :
    Path.IsFileName (Layout.reportFile name f.name).toList := by
  have hlist : (Layout.reportFile name f.name).toList =
      name.toList ++ ".debuginfo.".toList ++ f.name.toList := by
    rw [Layout.reportFile, String.toList_append, String.toList_append]
  have hlength : 2 < (Layout.reportFile name f.name).toList.length := by
    rw [hlist, List.length_append, f.length_name]
    omega
  refine ⟨Bool.or_eq_false_iff.2 ⟨?_, ?_⟩, ?_, ?_⟩
  · cases hcs : (Layout.reportFile name f.name).toList with
    | nil => simp [hcs] at hlength
    | cons c cs => rfl
  · rw [Path.isDot, beq_eq_false_iff_ne]
    intro hdot
    simp [hdot] at hlength
  · intro hup
    simp [hup] at hlength
  · rw [hlist, List.mem_append, List.mem_append]
    rintro ((hslash | hslash) | hslash)
    · exact slash_notMem_of_isFileName h hslash
    · exact absurd hslash (by decide)
    · exact f.slash_notMem_name hslash

theorem reportFile_inj {f g : ReportFormat} :
    Layout.reportFile name f.name = Layout.reportFile other g.name ↔ name = other ∧ f = g := by
  constructor
  · intro h
    have hlists := congrArg String.toList h
    simp only [Layout.reportFile, String.toList_append] at hlists
    obtain ⟨hnames, hformats⟩ := List.append_inj' hlists (f.length_name.trans g.length_name.symm)
    exact ⟨String.toList_inj.1 (List.append_cancel_right hnames),
      ReportFormat.name_inj.1 (String.toList_inj.1 hformats)⟩
  · rintro ⟨rfl, rfl⟩
    rfl

/-- A report is in the reports directory itself, whatever the path of the directory. -/
theorem components_reportPath (h : isFileName name = true) (l : Layout) (f : ReportFormat) :
    Path.components (l.reportPath name f.name) =
      Path.components l.reportsDir ++ [.normal (Layout.reportFile name f.name).toList] :=
  Path.components_join _ (isFileName_reportFile h f)

/-! ### Parsing -/

/-- The failure of a name that is turned away. -/
def invalidName (name : String) : Failure where
  tasks := []
  cause := .message ("Invalid binary name '" ++ name ++
    "': expected a plain file name without path separators")

/-- Whether this is the path of the report that is wanted of a binary. -/
def IsReportPath (l : Layout) (o : ParseOptions) (name path : String) : Prop :=
  ∃ f, o.report = some f ∧ path = l.reportPath name f.name

variable {l : Layout} {o : ParseOptions} {now : String} {d : Disk}

theorem checkName_of_not {m : Type → Type} [Monad m] (h : isFileName name = false) :
    checkName (m := m) name = throw (invalidName name) :=
  if_neg (Bool.eq_false_iff.1 h)

/-- A name that is turned away ends everything, on any host. -/
theorem parseBinary_of_not_isFileName {m : Type → Type} [Monad m] [LawfulMonad m] [Host m]
    (hname : o.name = some name) (h : isFileName name = false) (r : Registry) :
    parseBinary (m := m) r o = throw (invalidName name) := by
  rw [parseBinary, hname]
  dsimp only
  rw [checkName_of_not h]
  refine ExceptT.ext ?_
  rw [ExceptT.run_bind, ExceptT.run_throw, pure_bind]
  rfl

theorem parseBinary_of_isFileName {m : Type → Type} [Monad m] [LawfulMonad m] [Host m]
    (hname : o.name = some name) (h : isFileName name = true) (r : Registry) :
    parseBinary (m := m) r o =
      if o.persist then withProject o.root fun p => parseInto r o (some p)
      else parseInto r o none := by
  rw [parseBinary, hname]
  dsimp only
  rw [checkName, if_pos h, pure_bind]

theorem leads_writeReport {writes : String → Prop} {f : ReportFormat} {s : Ingest.Summary}
    (hpath : writes (l.reportPath s.binary.name f.name)) :
    Leads (Disk.Steps writes) (writeReport (m := OnDisk) l f s).run :=
  (leads_makeReportsDir l).then_run fun _ =>
    (Failure.leads_during (Host.leads_write hpath _) _ _).then_run fun _ => OnDisk.leads_pure _

theorem brings_writeReport (l : Layout) (f : ReportFormat) (s : Ingest.Summary) :
    Brings (· = l.reportPath s.binary.name f.name) (writeReport (m := OnDisk) l f s) :=
  .after fun _ => .after fun _ => OnDisk.brings_pure rfl

/-! ### Parsing in two steps -/

/-- The ingest that `parse` begins with. -/
def ingest (project : Option (Project OnDisk)) (r : Registry) (o : ParseOptions) :
    ExceptT Failure OnDisk Ingest.Summary :=
  Failure.during ["Failed to parse debug info for " ++ o.binary] .ofIngest
    (Ingest.into project r { path := o.binary, name := o.name, parsers := o.parsers })

/-- What `parse` does with the summary in a project with such a layout. -/
def reportOn (l : Layout) (o : ParseOptions) (s : Ingest.Summary) :
    ExceptT Failure OnDisk (Ingest.Summary × Option String) :=
  match o.report with
  | none => pure (s, none)
  | some f => do return (s, some (← writeReport l f s))

theorem parseInto_some (r : Registry) (o : ParseOptions) (p : Project OnDisk) :
    parseInto r o (some p) = ingest (some p) r o >>= reportOn p.layout o := by
  unfold parseInto
  refine congrArg _ (funext fun s => ?_)
  rw [reportOn]
  cases o.report with
  | none => rfl
  | some f => exact pure_bind ..

/-- Without a project, the root is looked for after the ingest.  It is where it was before. -/
theorem runOn_parseInto_none {root : String} (r : Registry)
    (hroot : runOn (Project.locate (m := OnDisk) o.root) now d = (root, d)) :
    runOn (parseInto r o none).run now d =
      runOn (ingest none r o >>= reportOn (Layout.of root) o).run now d := by
  obtain ⟨result, d', hingest⟩ : ∃ result d', runOn (ingest none r o).run now d = (result, d') :=
    ⟨_, _, rfl⟩
  -- the ingest changes nothing without a project
  have hleads : Leads Eq (ingest none r o).run :=
    Failure.leads_during (Ingest.leads_into_none r _) _ _
  obtain rfl : d = d' := (hleads now d).trans (congrArg Prod.snd hingest)
  have hsteps : parseInto r o none = ingest none r o >>= fun s =>
      match o.report with
      | none => pure (s, none)
      | some f => do
        let layout ← Layout.of <$> (Project.locate o.root : OnDisk String)
        return (s, some (← writeReport layout f s)) := rfl
  have hlayout : runOn (Layout.of <$> Project.locate (m := OnDisk) o.root) now d =
      (Layout.of root, d) := by
    rw [map_eq_pure_bind, OnDisk.runOn_bind hroot]
    rfl
  cases result with
  | error e => rw [hsteps, OnDisk.runOn_bind_error hingest, OnDisk.runOn_bind_error hingest]
  | ok s =>
    rw [hsteps, OnDisk.runOn_bind_ok hingest, OnDisk.runOn_bind_ok hingest, reportOn]
    cases o.report with
    | none => rfl
    | some f => exact OnDisk.runOn_bind_ok (OnDisk.runOn_lift hlayout)

theorem leads_reportOn {s : Ingest.Summary} (hname : s.binary.name = name) :
    Leads (Disk.Steps (IsReportPath l o name)) (reportOn l o s).run := by
  rw [reportOn]
  split
  · exact OnDisk.leads_pure _
  · next f hf =>
    exact (leads_writeReport ⟨f, hf, by rw [hname]⟩).then_run fun _ => OnDisk.leads_pure _

theorem brings_reportOn {s : Ingest.Summary} (hname : s.binary.name = name) :
    Brings (fun found => ∀ path, found.2 = some path → IsReportPath l o name path)
      (reportOn l o s) := by
  rw [reportOn]
  split
  · exact OnDisk.brings_pure nofun
  · next f hf =>
    refine (brings_writeReport l f s).bind fun path hpath => OnDisk.brings_pure ?_
    rintro _ ⟨⟩
    exact ⟨f, hf, hname ▸ hpath⟩

theorem brings_ingest (hname : o.name = some name) (project : Option (Project OnDisk))
    (r : Registry) : Brings (fun s => s.binary.name = name) (ingest project r o) :=
  Failure.brings_during (Ingest.brings_into hname project r) _ _

theorem leads_ingest_reportOn (hname : o.name = some name) (project : Option (Project OnDisk))
    (r : Registry) : Leads (Disk.Steps (IsReportPath l o name))
      (ingest project r o >>= reportOn l o).run :=
  (Failure.leads_during (Ingest.leads_into project r _) _ _).bind_run
    (brings_ingest hname project r) fun _ => leads_reportOn

theorem brings_ingest_reportOn (hname : o.name = some name) (project : Option (Project OnDisk))
    (r : Registry) :
    Brings (fun found => ∀ path, found.2 = some path → IsReportPath l o name path)
      (ingest project r o >>= reportOn l o) :=
  (brings_ingest hname project r).bind fun _ => brings_reportOn

/-! ### Only reports -/

/-- What becomes of a disk, and with what result, if no file is written but the report. -/
structure OnlyReports (l : Layout) (o : ParseOptions) (name : String) (d : Disk)
    (left : Except Failure (Ingest.Summary × Option String) × Disk) : Prop where
  steps : Disk.Steps (IsReportPath l o name) d left.2
  isReportPath : ∀ summary path, left.1 = .ok (summary, some path) → IsReportPath l o name path

theorem onlyReports_of {x : ExceptT Failure OnDisk (Ingest.Summary × Option String)}
    (hleads : Leads (Disk.Steps (IsReportPath l o name)) x.run)
    (hbrings : Brings (fun found => ∀ path, found.2 = some path → IsReportPath l o name path) x)
    (now : String) (d : Disk) : OnlyReports l o name d (runOn x.run now d) where
  steps := hleads now d
  isReportPath _ path h := hbrings now d _ _ (Prod.ext h rfl) path rfl

theorem runOn_withProject {α : Type} {root located : String}
    {action : Project OnDisk → ExceptT Failure OnDisk α}
    (hroot : runOn (Project.locate (m := OnDisk) root) now d = (located, d)) :
    runOn (withProject root action).run now d =
      runOn (Project.load located >>= fun p => ExceptT.mk do
        let result ← (action p).run
        p.close
        return result).run now d :=
  OnDisk.runOn_bind_ok (OnDisk.runOn_lift hroot)

/-- **Nothing is written but the report**, with a project and without. -/
theorem onlyReports_parseBinary {root : String} (hname : o.name = some name)
    (h : isFileName name = true) (r : Registry)
    (hroot : runOn (Project.locate (m := OnDisk) o.root) now d = (root, d)) :
    OnlyReports (Layout.of root) o name d (runOn (parseBinary r o).run now d) := by
  rw [parseBinary_of_isFileName hname h]
  split
  · rw [runOn_withProject hroot]
    refine onlyReports_of ?_ ?_ now d
    · refine (Project.leads_load root).bind_run (Project.brings_load root) fun p hp => ?_
      rw [parseInto_some, hp]
      refine (leads_ingest_reportOn hname (some p) r).bind fun _ => ?_
      exact (Host.leads_closeStore p.database).bind fun _ => OnDisk.leads_pure _
    · refine (Project.brings_load root).bind fun p hp => p.brings_closed ?_
      rw [parseInto_some, hp]
      exact brings_ingest_reportOn hname (some p) r
  · rw [runOn_parseInto_none r hroot]
    exact onlyReports_of (leads_ingest_reportOn hname none r) (brings_ingest_reportOn hname none r)
      now d

theorem runOn_locate (root now : String) (d : Disk) :
    ∃ located, runOn (Project.locate (m := OnDisk) root) now d = (located, d) :=
  ⟨_, Prod.ext rfl (Project.leads_locate (R := Eq) root now d).symm⟩

/-- **Reports stay in the reports directory and do not collide.**  A name on the command line that
is no file name is turned away on any host before anything is asked of it, so a disk stays as it
is.  With any other name, files are written only at the path of the report that is wanted, and that
is the path given back; it is the reports directory of the project with one component more.  Two
names or two formats never have the same path. -/
theorem reports_of_parseBinary (r : Registry) {o : ParseOptions} {name : String}
    (hname : o.name = some name) :
    (isFileName name = false →
      (∀ (m : Type → Type) [Monad m] [LawfulMonad m] [Host m],
        parseBinary (m := m) r o = throw (invalidName name)) ∧
      ∀ now d, runOn (parseBinary r o).run now d = (.error (invalidName name), d)) ∧
    (isFileName name = true →
      (∀ now d, ∃ root, runOn (Project.locate (m := OnDisk) o.root) now d = (root, d) ∧
        OnlyReports (Layout.of root) o name d (runOn (parseBinary r o).run now d)) ∧
      (∀ l path, IsReportPath l o name path → ∃ file,
        Path.components path = Path.components l.reportsDir ++ [.normal file]) ∧
      ∀ (l : Layout) other (f g : ReportFormat), isFileName other = true →
        Path.components (l.reportPath name f.name) = Path.components (l.reportPath other g.name) →
        name = other ∧ f = g) := by
  refine ⟨fun h => ⟨fun m => parseBinary_of_not_isFileName hname h r, fun now d => ?_⟩,
    fun h => ⟨fun now d => ?_, ?_, ?_⟩⟩
  · rw [parseBinary_of_not_isFileName hname h]
    rfl
  · obtain ⟨root, hroot⟩ := runOn_locate o.root now d
    exact ⟨root, hroot, onlyReports_parseBinary hname h r hroot⟩
  · rintro l path ⟨f, -, rfl⟩
    exact ⟨_, components_reportPath h l f⟩
  · intro l other f g hother hpaths
    rw [components_reportPath h, components_reportPath hother] at hpaths
    have hfiles := Path.Component.normal.inj (List.cons.inj (List.append_cancel_left hpaths)).1
    exact reportFile_inj.1 (String.toList_inj.1 hfiles)

/-! ### A name that leaves the reports directory, and one that does not -/

def reportsPlace : Place := [['r', 'e', 'p', 'o', 'r', 't', 's']]

/-- An empty file and a directory for reports. -/
def reportsDisk : Disk where
  nodes := [([['b']], .file 0), (reportsPlace, .directory)]
  contents := [(0, .bytes .empty)]
  next := 1
  current := []

theorem walk_reportsDisk (purpose : Disk.Purpose) (rest : List (List Char)) :
    reportsDisk.walk purpose Disk.maxLinks [] ([] :: reportsPlace ++ rest) =
      if purpose = .write && rest.all List.isEmpty && !rest.isEmpty then .error .isADirectory
      else reportsDisk.walk purpose Disk.maxLinks reportsPlace rest := by
  have hsize : (String.ofList ['r', 'e', 'p', 'o', 'r', 't', 's']).utf8ByteSize = 7 := by decide
  have hnode : reportsDisk.node? [['r', 'e', 'p', 'o', 'r', 't', 's']] = some .directory := rfl
  rw [reportsPlace, List.cons_append, List.singleton_append, Disk.walk, Disk.walk]
  simp [Path.isIdle, Path.isDot, Disk.maxNameSize, hsize, hnode]

theorem resolve_reportsDir (purpose : Disk.Purpose) :
    reportsDisk.resolve purpose "/reports" = .ok (.present reportsPlace .directory) := by
  have hpieces : Path.pieces "/reports".toList = [] :: reportsPlace ++ [] := by decide
  rw [Disk.resolve, hpieces, if_neg (by decide), if_neg (by decide), if_neg (by decide)]
  refine (walk_reportsDisk _ _).trans ?_
  rw [Disk.walk]
  simp

theorem find_binary : reportsDisk.find "b" = .ok ([['b']], .file 0) := by
  have hpieces : Path.pieces "b".toList = [['b']] := by decide
  have hname : Disk.IsName ['b'] := ⟨by decide, by decide, by decide⟩
  have hresolve : reportsDisk.resolve .use "b" = .ok (.present [['b']] (.file 0)) := by
    rw [Disk.resolve, hpieces, if_neg (by decide), if_neg (by decide), if_neg (by decide)]
    exact hname.walk_file rfl _ _
  simp only [Disk.find, hresolve, bind, Except.bind]

theorem resolve_report :
    reportsDisk.resolve .write "/reports/renamed.debuginfo.json" =
      .ok (.absent (reportsPlace ++ ["renamed.debuginfo.json".toList])) := by
  have hpieces : Path.pieces "/reports/renamed.debuginfo.json".toList =
      [] :: reportsPlace ++ ["renamed.debuginfo.json".toList] := by decide
  have hfile : Disk.IsName "renamed.debuginfo.json".toList := ⟨by decide, by decide, by decide⟩
  rw [Disk.resolve, hpieces, if_neg (by decide), if_neg (by decide), if_neg (by decide)]
  exact (walk_reportsDisk _ _).trans (hfile.walk_absent rfl _ _)

theorem exists_write_report (b : ByteArray) :
    ∃ d', reportsDisk.write "/reports/renamed.debuginfo.json" b = .ok d' := by
  simp only [Disk.write, Disk.ensureFile, resolve_report, bind, Except.bind]
  exact ⟨_, rfl⟩

theorem runOn_makeReportsDir (now : String) :
    runOn (makeReportsDir (m := OnDisk) (Layout.of "/")).run now reportsDisk =
      (.ok (), reportsDisk) := by
  have hmake : runOn (Host.makeDirectory (m := OnDisk) "/reports") now reportsDisk =
      (.error .exists, reportsDisk) := by
    refine (OnDisk.runOn_change _).trans ?_
    simp only [Disk.makeDirectory, resolve_reportsDir, bind, Except.bind]
  have hthere : runOn (Host.isDirectory (m := OnDisk) "/reports") now reportsDisk =
      (true, reportsDisk) := by
    change (reportsDisk.isDirectory "/reports", reportsDisk) = _
    simp only [Disk.isDirectory, Disk.find, resolve_reportsDir, bind, Except.bind]
  have hkeep : runOn (Host.makeOrKeep (m := OnDisk) "/reports") now reportsDisk =
      (.ok (), reportsDisk) := by
    rw [Host.makeOrKeep, OnDisk.runOn_bind hmake]
    exact OnDisk.runOn_bind hthere
  have hmakeAll : runOn (Host.makeDirectories (m := OnDisk) "/reports") now reportsDisk =
      (.ok (), reportsDisk) := by
    have hcount : (Path.components "/reports").length = 2 := by decide
    rw [Host.makeDirectories, hcount]
    exact OnDisk.runOn_bind hkeep
  exact OnDisk.runOn_bind_ok (OnDisk.runOn_lift hmakeAll)

theorem exists_writeReport (now : String) {s : Ingest.Summary} (hname : s.binary.name = "renamed") :
    ∃ d', runOn (writeReport (m := OnDisk) (Layout.of "/") .json s).run now reportsDisk =
      (.ok "/reports/renamed.debuginfo.json", d') := by
  have hpath : (Layout.of "/").reportPath s.binary.name ReportFormat.json.name =
      "/reports/renamed.debuginfo.json" := by
    rw [hname]
    decide
  obtain ⟨d', hd'⟩ := exists_write_report (ReportFormat.json.render s).toUTF8
  have hwrite : runOn (Host.write (m := OnDisk) "/reports/renamed.debuginfo.json"
      (ReportFormat.json.render s).toUTF8) now reportsDisk = (.ok (), d') := by
    refine (OnDisk.runOn_change _).trans ?_
    simp only [hd', bind, Except.bind]
  refine ⟨d', ?_⟩
  rw [writeReport, hpath, OnDisk.runOn_bind_ok (runOn_makeReportsDir now)]
  exact OnDisk.runOn_bind_ok (OnDisk.runOn_bind_ok (OnDisk.runOn_lift hwrite))

def reportOptions (name : String) : ParseOptions where
  root := "."
  binary := "b"
  name := some name
  parsers := []
  persist := false
  report := some .json
  json := false

theorem exists_ingest_reportsDisk (now : String) : ∃ s,
    runOn (ingest none Ingest.twoFinders (reportOptions "renamed")).run now reportsDisk =
      (.ok s, reportsDisk) := by
  have hfind := find_binary
  have hfile : reportsDisk.isFile "b" = true := by rw [Disk.isFile, hfind]
  have hread : reportsDisk.read "b" = .ok .empty := by
    rw [Disk.read, hfind]
    rfl
  have hsubject : runOn (Ingest.subjectAt (m := OnDisk) none "b") now reportsDisk =
      (.image (.ofFile "b" .empty) "b", reportsDisk) := by
    have hthere : runOn (Host.isFile (m := OnDisk) "b") now reportsDisk = (true, reportsDisk) :=
      congrArg (·, reportsDisk) hfile
    have hopen : runOn (openImage (m := OnDisk) "b") now reportsDisk =
        (.ok (.ofFile "b" .empty), reportsDisk) :=
      congrArg (fun b => (Except.map (Image.ofFile "b") b, reportsDisk)) hread
    rw [Ingest.subjectAt, OnDisk.runOn_bind hthere]
    exact OnDisk.runOn_bind hopen
  have hprepare : Ingest.prepare Ingest.twoFinders [] (.image (.ofFile "b" .empty) "b")
      { path := "b", name := some "renamed", parsers := [] } =
        .ok (.ofFile "b" .empty, "b", Ingest.twoFinders.list) := rfl
  have hinto := Ingest.runOn_into_none Ingest.twoFinders
    { path := "b", name := some "renamed", parsers := [] } hsubject
  rw [Ingest.run_none hprepare] at hinto
  exact ⟨_, OnDisk.runOn_bind_ok (OnDisk.runOn_lift hinto)⟩

theorem runOn_locate_reportsDisk (now : String) :
    runOn (Project.locate (m := OnDisk) ".") now reportsDisk = ("/", reportsDisk) := by
  have hcomponents : Path.components "." = [.current] := by decide
  have hcurrent : runOn (Host.currentDirectory (m := OnDisk)) now reportsDisk =
      ("/", reportsDisk) := rfl
  rw [Project.locate, OnDisk.runOn_bind hcurrent, if_pos hcomponents]
  rfl

theorem isReportPath_iff {path : String} :
    IsReportPath (Layout.of "/") (reportOptions "renamed") "renamed" path ↔
      path = "/reports/renamed.debuginfo.json" := by
  have hpath : (Layout.of "/").reportPath "renamed" ReportFormat.json.name =
      "/reports/renamed.debuginfo.json" := by decide
  rw [IsReportPath, ← hpath]
  exact ⟨fun ⟨_, hf, h⟩ => by cases hf; exact h, fun h => ⟨_, rfl, h⟩⟩

theorem exists_run_reportsDisk (now : String) : ∃ s path d',
    runOn (parseBinary Ingest.twoFinders (reportOptions "renamed")).run now reportsDisk =
      (.ok (s, some path), d') := by
  obtain ⟨s, hs⟩ := exists_ingest_reportsDisk now
  obtain ⟨d', hreport⟩ := exists_writeReport now (brings_ingest rfl _ _ _ _ _ _ hs)
  have hsteps : parseBinary (m := OnDisk) Ingest.twoFinders (reportOptions "renamed") =
      parseInto Ingest.twoFinders (reportOptions "renamed") none :=
    parseBinary_of_isFileName rfl (by decide) _
  have hroot : runOn (Project.locate (m := OnDisk) (reportOptions "renamed").root) now reportsDisk =
      ("/", reportsDisk) := runOn_locate_reportsDisk now
  refine ⟨s, "/reports/renamed.debuginfo.json", d', ?_⟩
  rw [hsteps, runOn_parseInto_none _ hroot, OnDisk.runOn_bind_ok hs]
  exact OnDisk.runOn_bind_ok hreport

/-- Of two names, one is turned away, and the other gets a report where it belongs. -/
theorem reports_of_parseBinary_renamed :
    runOn (parseBinary Ingest.twoFinders (reportOptions "../escaped")).run
      "2000-01-01T00:00:00+00:00" reportsDisk =
        (.error (invalidName "../escaped"), reportsDisk) ∧
    ∃ s path d', runOn (parseBinary Ingest.twoFinders (reportOptions "renamed")).run
        "2000-01-01T00:00:00+00:00" reportsDisk = (.ok (s, some path), d') ∧
      path = "/reports/renamed.debuginfo.json" ∧
      Disk.Steps (· = "/reports/renamed.debuginfo.json") reportsDisk d' ∧
      ∃ file, Path.components path = Path.components "/reports" ++ [.normal file] := by
  obtain ⟨refused, -⟩ := reports_of_parseBinary Ingest.twoFinders
    (o := reportOptions "../escaped") rfl
  obtain ⟨-, accepted⟩ := reports_of_parseBinary Ingest.twoFinders
    (o := reportOptions "renamed") rfl
  obtain ⟨only, below, -⟩ := accepted (by decide)
  refine ⟨(refused (by decide)).2 _ _, ?_⟩
  obtain ⟨s, path, d', hrun⟩ := exists_run_reportsDisk "2000-01-01T00:00:00+00:00"
  obtain ⟨root, hroot, hsteps, hpath⟩ := only "2000-01-01T00:00:00+00:00" reportsDisk
  obtain rfl : "/" = root := congrArg Prod.fst ((runOn_locate_reportsDisk _).symm.trans hroot)
  have hreport := hpath s path (congrArg Prod.fst hrun)
  rw [hrun] at hsteps
  refine ⟨s, path, d', hrun, isReportPath_iff.1 hreport, ?_, below _ path hreport⟩
  exact ReflTransGen.mono (fun _ _ h => h.mono fun _ => isReportPath_iff.1) _ _ hsteps

end Command

end DebugCatalog
