import DebugCatalog.Project.Open
import DebugCatalog.Proofs.Disk.Databases
import DebugCatalog.Proofs.Store.Migrating

/-!
# Opening a database

A database that is opened is brought to the current version, and it is written only if it does
not have it.  Here this is followed on a disk: what is stored before and after
(`openStore_of_stored`), and that whoever opens the database again finds it as it is and does
not write.

A disk says what can be opened, read and written.  That a database can be opened and read is
taken as given, and also that it can be written if it is behind.
-/

namespace DebugCatalog

/-! ### Programs on a disk -/

namespace OnDisk

variable {α β ε : Type} {now : String} {d d' : Disk}

/-- What a program brings on a disk, and the disk that it leaves. -/
def runOn (x : OnDisk α) (now : String) (d : Disk) : α × Disk :=
  (x.run now).run d

theorem runOn_pure (a : α) : runOn (pure a) now d = (a, d) := rfl

theorem runOn_bind {x : OnDisk α} {f : α → OnDisk β} {a : α} (h : runOn x now d = (a, d')) :
    runOn (x >>= f) now d = runOn (f a) now d' := by
  change runOn (f (runOn x now d).1) now (runOn x now d).2 = _
  rw [h]

theorem runOn_change (f : Disk → Except ε (Disk × α)) : runOn (change f) now d =
    match f d with
    | .ok (d, a) => (.ok a, d)
    | .error e => (.error e, d) := by
  unfold runOn OnDisk.change
  simp only [ReaderT.run, StateT.run_bind, StateT.run_get, pure_bind]
  cases f d <;> rfl

/-- Steps that may fail, as far as they do not. -/
theorem runOn_bind_ok {x : ExceptT ε OnDisk α} {f : α → ExceptT ε OnDisk β} {a : α}
    (h : runOn x.run now d = (.ok a, d')) :
    runOn (x >>= f).run now d = runOn (f a).run now d' := by
  rw [ExceptT.run_bind]
  exact runOn_bind h

end OnDisk

/-! ### Migrating what is stored -/

namespace Project

variable {now : String} {d d₁ d₂ d₃ : Disk} {o : Disk.Opened} {s t : Store} {name : String}

theorem runOn_openStore (h : d.openStore name = .ok (d₁, o)) :
    OnDisk.runOn (Host.openStore (m := OnDisk) name) now d = (.ok o, d₁) :=
  (OnDisk.runOn_change fun d => d.openStore name).trans (by rw [h])

theorem runOn_loadStore (h : d.loadStore o = .ok (d₁, s)) :
    OnDisk.runOn (Host.loadStore (m := OnDisk) o) now d = (.ok s, d₁) :=
  (OnDisk.runOn_change fun d => d.loadStore o).trans (by rw [h])

theorem runOn_saveStore (h : d.saveStore o s = .ok d₁) :
    OnDisk.runOn (Host.saveStore (m := OnDisk) o s) now d = (.ok (), d₁) :=
  (OnDisk.runOn_change fun d => do .ok (← d.saveStore o s, ())).trans (by
    simp only [h, bind, Except.bind])

/-- What is left to do once a database is read. -/
theorem runOn_migrateStore (hload : d.loadStore o = .ok (d₁, s)) (hmigrate : s.migrate = .ok t) :
    OnDisk.runOn (migrateStore (m := OnDisk) o) now d =
      OnDisk.runOn (if t ≠ s then Host.saveStore (m := OnDisk) o t else pure (.ok ())) now d₁ := by
  have hread : OnDisk.runOn (Host.loadStore (m := OnDisk) o) now d = (.ok s, d₁) :=
    runOn_loadStore hload
  unfold migrateStore
  rw [OnDisk.runOn_bind_ok (x := ExceptT.mk (Host.loadStore (m := OnDisk) o)) hread, hmigrate,
    OnDisk.runOn_bind_ok (x := ExceptT.mk (pure (.ok t))) (OnDisk.runOn_pure _)]
  split <;> rfl

theorem runOn_openStore_of_migrateStore (hopen : d.openStore name = .ok (d₁, o))
    (hmigrate : OnDisk.runOn (migrateStore (m := OnDisk) o) now d₁ = (.ok (), d₂)) :
    OnDisk.runOn (Project.openStore (m := OnDisk) name) now d = (.ok o, d₂) := by
  unfold Project.openStore
  rw [OnDisk.runOn_bind (runOn_openStore hopen)]
  dsimp only
  rw [OnDisk.runOn_bind hmigrate]
  rfl

/-- A database of the current version is read and not written. -/
theorem runOn_openStore_of_current (hopen : d.openStore name = .ok (d₁, o))
    (hload : d₁.loadStore o = .ok (d₂, s)) (hcurrent : s.version = Store.currentVersion) :
    OnDisk.runOn (Project.openStore (m := OnDisk) name) now d = (.ok o, d₂) := by
  refine runOn_openStore_of_migrateStore hopen ?_
  rw [runOn_migrateStore hload (Store.migrate_of_version hcurrent), if_neg (not_not.2 rfl)]
  rfl

/-- A database that is behind is written as it was migrated. -/
theorem runOn_openStore_of_behind (hopen : d.openStore name = .ok (d₁, o))
    (hload : d₁.loadStore o = .ok (d₂, s)) (hmigrate : s.migrate = .ok t) (hne : t ≠ s)
    (hsave : d₂.saveStore o t = .ok d₃) :
    OnDisk.runOn (Project.openStore (m := OnDisk) name) now d = (.ok o, d₃) := by
  refine runOn_openStore_of_migrateStore hopen ?_
  rw [runOn_migrateStore hload hmigrate, if_pos hne]
  exact runOn_saveStore hsave

/-- What was written beside nothing is opened as it is. -/
theorem runOn_openStore_of_saveStore (hopen : d.openStore name = .ok (d, o)) (halone : d.IsAlone o)
    (hsave : d.saveStore o t = .ok d₃) (hcurrent : t.version = Store.currentVersion) :
    OnDisk.runOn (Project.openStore (m := OnDisk) name) now d₃ = (.ok o, d₃) := by
  obtain ⟨changes, hstored⟩ := Disk.storeIn_of_saveStore hsave
  obtain ⟨c, rfl⟩ := halone.exists_setContents hsave
  exact runOn_openStore_of_current (Disk.openStore_setContents hopen o.number c)
    ((halone.setContents o.number c).loadStore hstored) hcurrent

/-- **Opening a database brings it to the current version and loses nothing.**  Whatever is
stored at one of the versions that there are, with the tables of that version and perhaps
others, the database is opened.  Then all tables are there, and those that were there before
have their rows and counters.  Wherever the result is opened again, it is only read, and if
nothing stands beside it, the disk stays as it is. -/
theorem openStore_of_stored (hopen : d.openStore name = .ok (d₁, o))
    (hload : d₁.loadStore o = .ok (d₂, s)) (hmin : Store.minVersion ≤ s.version)
    (hmax : s.version ≤ Store.currentVersion)
    (htables : ∀ table : StoreTable, table.since ≤ s.version → s.hasTable table = true)
    (hwrite : s.version < Store.currentVersion → ∃ e, d₂.saveStore o s = .ok e) :
    ∃ d₃ t changes,
      OnDisk.runOn (Project.openStore (m := OnDisk) name) now d = (.ok o, d₃) ∧
      d₃.storeIn o = .ok (t, changes) ∧ t.version = Store.currentVersion ∧
      (∀ table, t.hasTable table = true) ∧ s.Keeps t ∧
      (∀ again later e e₁ e₂ o', e.openStore again = .ok (e₁, o') →
        e₁.loadStore o' = .ok (e₂, t) →
        OnDisk.runOn (Project.openStore (m := OnDisk) again) later e = (.ok o', e₂)) ∧
      (d₁ = d → d.IsAlone o → ∀ later,
        OnDisk.runOn (Project.openStore (m := OnDisk) name) later d₃ = (.ok o, d₃)) := by
  obtain ⟨t, hmigrate, hversion, hall, hkeeps⟩ := Store.exists_migrate hmin hmax htables
  have hagain : ∀ again later e e₁ e₂ o', e.openStore again = .ok (e₁, o') →
      e₁.loadStore o' = .ok (e₂, t) →
      OnDisk.runOn (Project.openStore (m := OnDisk) again) later e = (.ok o', e₂) :=
    fun _ _ _ _ _ _ hopen' hload' => runOn_openStore_of_current hopen' hload' hversion
  by_cases hcurrent : s.version = Store.currentVersion
  · obtain rfl : s = t := Except.ok.inj ((Store.migrate_of_version hcurrent).symm.trans hmigrate)
    obtain ⟨changes, hstored⟩ := Disk.storeIn_of_loadStore hload
    refine ⟨d₂, s, changes, runOn_openStore_of_current hopen hload hcurrent, hstored, hversion,
      hall, hkeeps, hagain, ?_⟩
    rintro rfl halone later
    obtain rfl := halone.eq_of_loadStore hload
    exact runOn_openStore_of_current hopen hload hcurrent
  · obtain ⟨e, he⟩ := hwrite (Int.lt_iff_le_and_ne.2 ⟨hmax, hcurrent⟩)
    obtain ⟨d₃, hsave⟩ := Disk.exists_saveStore he t
    obtain ⟨changes, hstored⟩ := Disk.storeIn_of_saveStore hsave
    have hne : t ≠ s := by
      rintro rfl
      exact hcurrent hversion
    refine ⟨d₃, t, changes, runOn_openStore_of_behind hopen hload hmigrate hne hsave, hstored,
      hversion, hall, hkeeps, hagain, ?_⟩
    rintro rfl halone later
    obtain rfl := halone.eq_of_loadStore hload
    exact runOn_openStore_of_saveStore hopen halone hsave hversion

/-! ### A database of the first version -/

/-- A store of the first version with a table of the last. -/
def olderStore : Store where
  version := 1
  binaries := some (Numbered.empty.push
    { name := "kernel", path := "boot/kernel", arch := none, format := none, hash := none })
  runs := none
  types := some [{ run := 7, name := "size_t", definition := "" }]
  functions := none
  parameters := none

def olderPlace : Place := [['p', '.', 'd', 'b']]

def olderDisk : Disk where
  nodes := [(olderPlace, .file 0)]
  contents := [(0, .store olderStore 1)]
  next := 1
  current := []

def olderDatabase : Disk.Opened where
  number := 0
  place := some olderPlace
  writable := true
  logs := .indexed

theorem isName_olderPlace : Disk.IsName ['p', '.', 'd', 'b'] :=
  ⟨rfl, by decide, by decide⟩

theorem walk_olderDisk (purpose : Disk.Purpose) (links : Nat) :
    olderDisk.walk purpose links [] olderPlace = .ok (.present olderPlace (.file 0)) :=
  isName_olderPlace.walk_file rfl purpose links

theorem walk_absent_olderDisk {name : List Char} (hname : Disk.IsName name)
    (h : olderDisk.node? [name] = none) (purpose : Disk.Purpose) (links : Nat) :
    olderDisk.walk purpose links [] [name] = .ok (.absent [name]) :=
  hname.walk_absent h purpose links

theorem openStore_olderDisk : olderDisk.openStore "p.db" = .ok (olderDisk, olderDatabase) := by
  have hparse : Location.parse? "p.db" =
      some { path := "p.db", access := .create, storage := .file .indexed, isStill := false } := rfl
  have hwalk : olderDisk.databaseWalk Disk.maxDatabaseLinks
      (if Path.isAbsolute "p.db" then [] else olderDisk.current) (Path.pieces "p.db".toList) =
        some olderPlace :=
    isName_olderPlace.databaseWalk_file (by decide : Disk.placeSize olderPlace < _)
      (walk_olderDisk .name 0) _
  have hplace : olderDisk.databasePlace? "p.db" = some olderPlace := by
    rw [Disk.databasePlace?, hwalk]
    rfl
  rw [Disk.openStore, hparse]
  dsimp only
  rw [hplace]
  dsimp only
  rw [Disk.openAt, walk_olderDisk]
  rfl

theorem isAlone_olderDisk : olderDisk.IsAlone olderDatabase := by
  rintro place hplace ending hending
  obtain rfl : olderPlace = place := Option.some.inj hplace
  simp only [List.mem_cons, List.not_mem_nil, or_false] at hending
  rcases hending with rfl | rfl
  · exact ⟨_, walk_absent_olderDisk ⟨rfl, by decide, by decide⟩ rfl _ _⟩
  · exact ⟨_, walk_absent_olderDisk ⟨rfl, by decide, by decide⟩ rfl _ _⟩

/-- The tables that were there are kept, also the one that was there too early, the others are
made, and nothing happens when the database is opened again. -/
theorem openStore_of_stored_olderStore : ∃ d t,
    OnDisk.runOn (Project.openStore (m := OnDisk) "p.db") "2000-01-01T00:00:00+00:00" olderDisk =
      (.ok olderDatabase, d) ∧
    (∃ changes, d.storeIn olderDatabase = .ok (t, changes)) ∧ t.version = 3 ∧
    t.binaries = olderStore.binaries ∧ t.types = olderStore.types ∧
    t.hasTable .parameters = true ∧
    OnDisk.runOn (Project.openStore (m := OnDisk) "p.db") "2001-01-01T00:00:00+00:00" d =
      (.ok olderDatabase, d) := by
  have hstored : olderDisk.storeIn olderDatabase = .ok (olderStore, 1) := rfl
  have hunmoved : ∀ place, olderDatabase.place = some place →
      olderDisk.isUnmoved olderDatabase place = true := by
    rintro place hplace
    obtain rfl : olderPlace = place := Option.some.inj hplace
    rw [Disk.isUnmoved, walk_olderDisk]
    rfl
  obtain ⟨d, t, changes, hrun, hafter, hversion, hall, hkeeps, -, hagain⟩ :=
    openStore_of_stored openStore_olderDisk (isAlone_olderDisk.loadStore hstored)
      (by decide) (by decide) (fun table hsince => by cases table <;> first | rfl | cases hsince)
      fun _ => isAlone_olderDisk.exists_saveStore rfl hstored hunmoved _
  exact ⟨d, t, hrun, ⟨changes, hafter⟩, hversion, hkeeps.binaries.eq_some rfl,
    hkeeps.types.eq_some rfl, hall .parameters, hagain rfl isAlone_olderDisk _⟩

end Project

end DebugCatalog
