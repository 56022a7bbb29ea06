import DebugCatalog.Proofs.Project.Opening

/-!
# Versions that are refused

A database says itself which version it is of, and that may be any number.  Opening it compares
this number with the supported versions only from above: a database that is too new is refused
and stays as it is, and every other one is opened (`openStore_of_version`).

A number below all versions is therefore not refused.  The database takes every step but the
first (`Store.exists_steps`), has the current version from then on, and is still without
binaries if it had none.
-/

namespace DebugCatalog

/-- The error says which versions there are. -/
theorem StoreError.message_unsupportedVersion (found : Int) :
    (StoreError.unsupportedVersion found).message =
      "Unsupported schema version " ++ toString found ++ "; supported range is 0..=3" := by
  have hrange : "; supported range is " ++ (toString Store.minVersion ++ ("..=" ++
      toString Store.currentVersion)) = "; supported range is 0..=3" := by decide
  unfold message detail
  dsimp only
  generalize "Unsupported schema version " ++ toString found = start
  rw [String.append_assoc, String.append_assoc, String.append_assoc]
  exact congrArg (start ++ ·) hrange

/-! ### Migrating from any version -/

namespace Store

variable {s : Store}

theorem migrate_of_newer (h : currentVersion < s.version) :
    s.migrate = .error (.unsupportedVersion s.version) := if_pos h

/-- Below all versions, all steps are taken but the first. -/
theorem migrate_of_lt_minVersion (h : s.version < minVersion) :
    s.migrate = .ok (versions.tail.foldl upgrade s) := by
  simp only [minVersion] at h
  have hnew : ¬ currentVersion < s.version := by rw [currentVersion]; omega
  have hfirst : s.version ≠ 0 := Int.ne_of_lt h
  have hsecond : s.version < 2 := by omega
  unfold migrate
  rw [if_neg hnew]
  simp only [if_neg hfirst, if_pos hsecond]
  rfl

/-- Whatever version a store is of, unless it is too new, it takes steps to the current one. -/
theorem exists_steps (h : s.version ≤ currentVersion) :
    ∃ vs, s.migrate = .ok (vs.foldl upgrade s) ∧ (vs.foldl upgrade s).version = currentVersion ∧
      (s.version < minVersion → vs = versions.tail) := by
  by_cases hmin : minVersion ≤ s.version
  · refine ⟨pending s.version, migrate_eq_foldl hmin h, ?_, fun hlt => absurd hmin (by omega)⟩
    rw [version_foldl_upgrade (fun _ => mem_versions_of_pending), getLast?_pending hmin h]
  · exact ⟨versions.tail, migrate_of_lt_minVersion (by omega), rfl, fun _ => rfl⟩

end Store

/-! ### Closing -/

namespace Disk

variable {d : Disk} {o : Opened}

theorem storeIn_closeStore (d : Disk) (o : Opened) : (d.closeStore o).storeIn o = d.storeIn o := by
  unfold closeStore
  split
  · rfl
  · split <;> rfl

theorem IsAlone.closeStore (h : d.IsAlone o) : d.closeStore o = d := by
  unfold Disk.closeStore
  split
  · rfl
  · next place hplace => rw [h.isLogged hplace, if_neg Bool.false_ne_true]

end Disk

/-! ### Steps that fail on a disk -/

namespace OnDisk

variable {α β ε : Type} {now : String} {d d' : Disk}

theorem runOn_bind_error {x : ExceptT ε OnDisk α} {f : α → ExceptT ε OnDisk β} {e : ε}
    (h : runOn x.run now d = (.error e, d')) : runOn (x >>= f).run now d = (.error e, d') := by
  rw [ExceptT.run_bind]
  exact (runOn_bind h).trans (runOn_pure _)

end OnDisk

namespace Project

variable {now : String} {d d₁ d₂ d₃ : Disk} {o : Disk.Opened} {s : Store} {name : String}

/-- A database that cannot be migrated is closed again. -/
theorem runOn_openStore_of_error {e : StoreError} (hopen : d.openStore name = .ok (d₁, o))
    (hload : d₁.loadStore o = .ok (d₂, s)) (hmigrate : s.migrate = .error e) :
    OnDisk.runOn (Project.openStore (m := OnDisk) name) now d = (.error e, d₂.closeStore o) := by
  have hread : OnDisk.runOn (Host.loadStore (m := OnDisk) o) now d₁ = (.ok s, d₂) :=
    runOn_loadStore hload
  have hfailed : OnDisk.runOn (migrateStore (m := OnDisk) o) now d₁ = (.error e, d₂) := by
    unfold migrateStore
    rw [OnDisk.runOn_bind_ok (x := ExceptT.mk (Host.loadStore (m := OnDisk) o)) hread, hmigrate]
    exact OnDisk.runOn_bind_error (x := ExceptT.mk (pure (.error e))) (OnDisk.runOn_pure _)
  unfold Project.openStore
  rw [OnDisk.runOn_bind (runOn_openStore hopen)]
  dsimp only
  rw [OnDisk.runOn_bind hfailed]
  rfl

/-- **A database is refused exactly if it is too new.**  Then the error names its version and the
supported ones, and what is stored stays, as does the disk if nothing stands beside the
database.  A version below all others is taken for an old one: the database is opened and
becomes one of the current version, keeps the tables that it had, and gets those that it did
not have, save that of binaries. -/
theorem openStore_of_version (hopen : d.openStore name = .ok (d₁, o))
    (hload : d₁.loadStore o = .ok (d₂, s))
    (hwrite : s.version < Store.currentVersion → ∃ e, d₂.saveStore o s = .ok e) :
    ∃ result d₃ t changes,
      OnDisk.runOn (Project.openStore (m := OnDisk) name) now d = (result, d₃) ∧
      d₃.storeIn o = .ok (t, changes) ∧
      ((∃ e, result = .error e) ↔ Store.currentVersion < s.version) ∧
      (Store.currentVersion < s.version →
        result = .error (.unsupportedVersion s.version) ∧
        (StoreError.unsupportedVersion s.version).message = "Unsupported schema version " ++
          toString s.version ++ "; supported range is 0..=3" ∧
        t = s ∧ d₃.storeIn o = d₂.storeIn o ∧ (d₁ = d → d.IsAlone o → d₃ = d)) ∧
      (s.version < Store.minVersion →
        result = .ok o ∧ t.version = Store.currentVersion ∧ s.Keeps t ∧ t.binaries = s.binaries ∧
        ∀ table, table ≠ .binaries → t.hasTable table = true) := by
  obtain ⟨changes, hstored⟩ := Disk.storeIn_of_loadStore hload
  by_cases hnew : Store.currentVersion < s.version
  · have hclosed : (d₂.closeStore o).storeIn o = d₂.storeIn o := Disk.storeIn_closeStore d₂ o
    refine ⟨_, d₂.closeStore o, s, changes,
      runOn_openStore_of_error hopen hload (Store.migrate_of_newer hnew), hclosed.trans hstored,
      ⟨fun _ => hnew, fun _ => ⟨_, rfl⟩⟩,
      fun _ => ⟨rfl, StoreError.message_unsupportedVersion _, rfl, hclosed, ?_⟩, fun hmin => ?_⟩
    · rintro rfl halone
      obtain rfl := halone.eq_of_loadStore hload
      exact halone.closeStore
    · simp only [Store.currentVersion, Store.minVersion] at hnew hmin
      omega
  · obtain ⟨vs, hmigrate, hversion, hsteps⟩ := Store.exists_steps (Int.not_lt.1 hnew)
    have hopened : (∃ e, (.ok o : Except StoreError Disk.Opened) = .error e) ↔
        Store.currentVersion < s.version := by
      refine iff_of_false ?_ hnew
      rintro ⟨e, he⟩
      cases he
    by_cases hcurrent : s.version = Store.currentVersion
    · refine ⟨_, d₂, s, changes, runOn_openStore_of_current hopen hload hcurrent, hstored,
        hopened, fun h => absurd h hnew, fun hmin => ?_⟩
      rw [hcurrent] at hmin
      exact absurd hmin (by decide)
    · obtain ⟨e, he⟩ := hwrite (Int.lt_iff_le_and_ne.2 ⟨Int.not_lt.1 hnew, hcurrent⟩)
      obtain ⟨d₃, hsave⟩ := Disk.exists_saveStore he (vs.foldl Store.upgrade s)
      obtain ⟨saved, hsaved⟩ := Disk.storeIn_of_saveStore hsave
      have hne : vs.foldl Store.upgrade s ≠ s := by
        intro heq
        exact hcurrent (heq ▸ hversion)
      refine ⟨_, d₃, _, saved, runOn_openStore_of_behind hopen hload hmigrate hne hsave, hsaved,
        hopened, fun h => absurd h hnew, fun hmin => ?_⟩
      obtain rfl := hsteps hmin
      refine ⟨rfl, hversion, Store.keeps_foldl_upgrade _ s, rfl, fun table htable => ?_⟩
      refine Store.hasTable_foldl_upgrade ?_ s
      cases table with
      | binaries => exact absurd rfl htable
      | runs | types | functions | parameters => decide

/-! ### A database below all versions -/

/-- A store without tables that says it is of the version before the first. -/
def misnumberedStore : Store :=
  { Store.blank with version := -1 }

def misnumberedDisk : Disk :=
  olderDisk.setContents 0 (.store misnumberedStore 1)

theorem isAlone_misnumberedDisk : misnumberedDisk.IsAlone olderDatabase :=
  isAlone_olderDisk.setContents 0 _

/-- It is opened, has the current version from then on, and no table of binaries. -/
theorem openStore_of_version_misnumbered : ∃ d t changes,
    OnDisk.runOn (Project.openStore (m := OnDisk) "p.db") "2000-01-01T00:00:00+00:00"
      misnumberedDisk = (.ok olderDatabase, d) ∧
    d.storeIn olderDatabase = .ok (t, changes) ∧ t.version = 3 ∧ t.binaries = none ∧
    t.hasTable .runs = true := by
  have hopen : misnumberedDisk.openStore "p.db" = .ok (misnumberedDisk, olderDatabase) :=
    Disk.openStore_setContents openStore_olderDisk 0 _
  have hstored : misnumberedDisk.storeIn olderDatabase = .ok (misnumberedStore, 1) := rfl
  have hunmoved : ∀ place, olderDatabase.place = some place →
      misnumberedDisk.isUnmoved olderDatabase place = true := by
    rintro place hplace
    obtain rfl : olderPlace = place := Option.some.inj hplace
    rw [Disk.isUnmoved, misnumberedDisk, Disk.walk_setContents, walk_olderDisk]
    rfl
  obtain ⟨result, d, t, changes, hrun, hafter, -, -, hbelow⟩ :=
    openStore_of_version hopen (isAlone_misnumberedDisk.loadStore hstored)
      fun _ => isAlone_misnumberedDisk.exists_saveStore rfl hstored hunmoved _
  obtain ⟨rfl, hversion, -, hbinaries, htables⟩ := hbelow (by decide)
  exact ⟨d, t, changes, hrun, hafter, hversion, hbinaries, htables .runs (by decide)⟩

end Project

end DebugCatalog
