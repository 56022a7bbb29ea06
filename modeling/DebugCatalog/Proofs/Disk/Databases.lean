import DebugCatalog.Disk.Database
import DebugCatalog.Proofs.Results

/-!
# Databases that are written

A write replaces what is in the file of a database.  What is read afterwards is what was written
(`storeIn_of_saveStore`), and whether a write succeeds does not depend on what is written
(`exists_saveStore`).

Paths lead where they led, since the contents of files take no part in how they are followed
(`walk_setContents`).  So a database that has nothing beside it (`IsAlone`) is opened as before
once it is written, and reading it changes nothing on the disk.
-/

namespace DebugCatalog

namespace Disk

variable {d d' : Disk} {o : Opened} {s : Store} {name : String}

/-! ### Reading what was written -/

theorem contents_of_saveStore (h : d.saveStore o s = .ok d') : ∃ changes,
    d'.contents = (d.setContents o.number (.store s changes)).contents := by
  unfold saveStore at h
  split at h
  · cases h
  · obtain ⟨⟨before, changes⟩, -, h⟩ := exists_of_bind_eq_ok h
    refine ⟨changes + before.changesTo s, ?_⟩
    dsimp only at h
    split at h
    · cases h
      rfl
    · split at h
      · cases h
        rfl
      · split at h
        · cases h
        · split at h
          · cases h
            rfl
          · cases h
            rfl
          · cases h

/-- Whatever becomes of a journal, what is written is in the file. -/
theorem storeIn_of_saveStore (h : d.saveStore o s = .ok d') :
    ∃ changes, d'.storeIn o = .ok (s, changes) := by
  obtain ⟨changes, hcontents⟩ := contents_of_saveStore h
  refine ⟨changes, ?_⟩
  rw [storeIn, hcontents, setContents, List.lookup_cons_self]
  rfl

/-- Whether a database can be written does not depend on what is written. -/
theorem exists_saveStore (h : d.saveStore o s = .ok d') (t : Store) :
    ∃ d'', d.saveStore o t = .ok d'' := by
  unfold saveStore at h ⊢
  split at h
  · cases h
  · next hwritable =>
    obtain ⟨⟨before, changes⟩, hbefore, h⟩ := exists_of_bind_eq_ok h
    rw [if_neg hwritable, hbefore]
    simp only [bind, Except.bind] at h ⊢
    split at h
    · exact ⟨_, rfl⟩
    · split at h
      · next hlogged =>
        rw [if_pos hlogged]
        exact ⟨_, rfl⟩
      · next hlogged =>
        rw [if_neg hlogged]
        split at h
        · cases h
        · next hunmoved =>
          rw [if_neg hunmoved]
          split at h
          · exact ⟨_, rfl⟩
          · exact ⟨_, rfl⟩
          · cases h

/-- What is read is in the file. -/
theorem storeIn_of_loadStore (h : d.loadStore o = .ok (d', s)) :
    ∃ changes, d'.storeIn o = .ok (s, changes) := by
  obtain ⟨settled, -, h⟩ := exists_of_bind_eq_ok h
  obtain ⟨⟨found, changes⟩, hfound, h⟩ := exists_of_bind_eq_ok h
  cases h
  exact ⟨changes, hfound⟩

/-! ### Databases with nothing beside them -/

/-- Paths lead where they led, whatever is in the files. -/
theorem walk_setContents (d : Disk) (n : Nat) (c : Contents) :
    (d.setContents n c).walk = d.walk := by
  -- the recursion asks the disk only for its nodes, which both disks share
  delta walk walk._unary
  rfl

theorem databaseWalk_setContents (d : Disk) (n : Nat) (c : Contents) :
    (d.setContents n c).databaseWalk = d.databaseWalk := by
  delta databaseWalk databaseWalk._unary
  simp only [walk_setContents]

theorem databasePlace?_setContents (d : Disk) (n : Nat) (c : Contents) (path : String) :
    (d.setContents n c).databasePlace? path = d.databasePlace? path := by
  rw [databasePlace?, databaseWalk_setContents]
  rfl

/-- No disk is the one on which a file more was made. -/
theorem next_newFile_ne (d : Disk) (c : Contents) : (d.newFile c).1.next ≠ d.next :=
  Nat.succ_ne_self d.next

theorem openAt_setContents {place p : Place} {access : Access} {number : Nat}
    (h : d.openAt place access = .ok (d, p, number)) (n : Nat) (c : Contents) :
    (d.setContents n c).openAt place access = .ok (d.setContents n c, p, number) := by
  rw [openAt] at h ⊢
  rw [walk_setContents]
  split at h
  · cases h
    rfl
  · split at h
    · exact absurd (congrArg (fun r : Disk × Place × Nat => r.1.next) (Except.ok.inj h))
        (next_newFile_ne d (.bytes .empty))
    · cases h
  · cases h

/-- A database that is there is opened in the same way once it is written. -/
theorem openStore_setContents (h : d.openStore name = .ok (d, o)) (n : Nat) (c : Contents) :
    (d.setContents n c).openStore name = .ok (d.setContents n c, o) := by
  unfold openStore at h ⊢
  split at h
  · cases h
  · dsimp only at h ⊢
    split at h
    · exact absurd (congrArg (fun r : Disk × Opened => r.1.next) (Except.ok.inj h))
        (next_newFile_ne d (.bytes .empty))
    · rw [databasePlace?_setContents]
      split at h
      · cases h
      · obtain ⟨⟨d', p, number⟩, hopened, h⟩ := exists_of_bind_eq_ok h
        obtain ⟨rfl, rfl⟩ := Prod.mk.inj (Except.ok.inj h)
        rw [openAt_setContents hopened]
        rfl

/-- What may be the name of a file. -/
structure IsName (name : List Char) : Prop where
  notIdle : Path.isIdle name = false
  notUp : name ≠ ['.', '.']
  short : (String.ofList name).utf8ByteSize ≤ maxNameSize

namespace IsName

theorem walk_file {name : List Char} (hname : IsName name) {directory : Place} {n : Nat}
    (h : d.node? (directory ++ [name]) = some (.file n)) (purpose : Purpose) (links : Nat) :
    d.walk purpose links directory [name] =
      .ok (.present (directory ++ [name]) (.file n)) := by
  rw [walk, hname.notIdle, if_neg Bool.false_ne_true, if_neg hname.notUp]
  simp only [List.isEmpty_nil, Bool.not_true, Bool.and_false, Bool.false_eq_true, if_false,
    if_neg (Nat.not_lt.2 hname.short), h, Bool.true_or, if_true]

theorem walk_absent {name : List Char} (hname : IsName name) {directory : Place}
    (h : d.node? (directory ++ [name]) = none) (purpose : Purpose) (links : Nat) :
    d.walk purpose links directory [name] = .ok (.absent (directory ++ [name])) := by
  rw [walk, hname.notIdle, if_neg Bool.false_ne_true, if_neg hname.notUp]
  simp only [List.isEmpty_nil, Bool.not_true, Bool.and_false, Bool.false_eq_true, if_false,
    if_neg (Nat.not_lt.2 hname.short), h, List.all_nil, if_true]

theorem databaseWalk_file {name : List Char} (hname : IsName name) {place p : Place}
    {n : Nat} (hsize : placeSize (place ++ [name]) < maxDatabasePath)
    (h : d.walk .name 0 [] (place ++ [name]) = .ok (.present p (.file n))) (links : Nat) :
    d.databaseWalk links place [name] = some (place ++ [name]) := by
  rw [databaseWalk, hname.notIdle, if_neg Bool.false_ne_true, if_neg hname.notUp]
  simp only [if_neg (Nat.not_le.2 hsize), h, databaseWalk]

end IsName

/-- Neither a journal nor a log is beside a database. -/
def IsAlone (d : Disk) (o : Opened) : Prop :=
  ∀ place, o.place = some place → ∀ ending ∈ [journalEnding, logEnding],
    ∃ p, d.walk .name maxLinks [] (beside place ending) = .ok (.absent p)

theorem standing?_of_absent {place p : Place}
    (h : d.walk .name maxLinks [] place = .ok (.absent p)) : d.standing? place = none := by
  rw [standing?, h]

namespace IsAlone

theorem setContents (h : d.IsAlone o) (n : Nat) (c : Contents) :
    (d.setContents n c).IsAlone o := by
  rw [IsAlone, walk_setContents]
  exact h

theorem absent_journal (h : d.IsAlone o) {place : Place} (hplace : o.place = some place) :
    ∃ p, d.walk .name maxLinks [] (beside place journalEnding) = .ok (.absent p) :=
  h place hplace journalEnding (List.mem_cons_self ..)

theorem standing?_log (h : d.IsAlone o) {place : Place} (hplace : o.place = some place) :
    d.standing? (beside place logEnding) = none := by
  obtain ⟨p, hlog⟩ := h place hplace logEnding (List.mem_cons_of_mem _ (List.mem_singleton_self _))
  exact standing?_of_absent hlog

theorem isLogged (h : d.IsAlone o) {place : Place} (hplace : o.place = some place) :
    d.isLogged o place = false := by
  rw [Disk.isLogged, h.standing?_log hplace, Option.isSome_none, Bool.and_false]

theorem settle (h : d.IsAlone o) : d.settle o = .ok d := by
  unfold Disk.settle
  split
  · rfl
  · next place hplace =>
    obtain ⟨p, hjournal⟩ := h.absent_journal hplace
    rw [h.isLogged hplace, if_neg Bool.false_ne_true, settleJournal, standing?_of_absent hjournal]
    simp only [bind, Except.bind, settleLog, h.standing?_log hplace]

/-- Then reading changes nothing. -/
theorem loadStore (h : d.IsAlone o) {changes : Nat}
    (hstored : d.storeIn o = .ok (s, changes)) : d.loadStore o = .ok (d, s) := by
  rw [Disk.loadStore, h.settle]
  simp only [bind, Except.bind, hstored]

theorem eq_of_loadStore (h : d.IsAlone o) (hload : d.loadStore o = .ok (d', s)) :
    d' = d := by
  obtain ⟨settled, hsettled, hload⟩ := exists_of_bind_eq_ok hload
  obtain rfl : d = settled := Except.ok.inj (h.settle.symm.trans hsettled)
  obtain ⟨found, -, hload⟩ := exists_of_bind_eq_ok hload
  exact (congrArg Prod.fst (Except.ok.inj hload)).symm

/-- A write changes the file and nothing else. -/
theorem exists_setContents (h : d.IsAlone o) (hsave : d.saveStore o s = .ok d') :
    ∃ c, d' = d.setContents o.number c := by
  unfold saveStore at hsave
  split at hsave
  · cases hsave
  · obtain ⟨⟨before, changes⟩, -, hsave⟩ := exists_of_bind_eq_ok hsave
    dsimp only at hsave
    split at hsave
    · exact ⟨_, (Except.ok.inj hsave).symm⟩
    · next place hplace =>
      obtain ⟨p, hjournal⟩ := h.absent_journal hplace
      rw [h.isLogged hplace, if_neg Bool.false_ne_true, hjournal] at hsave
      split at hsave
      · cases hsave
      · exact ⟨_, (Except.ok.inj hsave).symm⟩

theorem exists_saveStore (h : d.IsAlone o) (hwritable : o.writable = true) {changes : Nat}
    (hstored : d.storeIn o = .ok (s, changes))
    (hunmoved : ∀ place, o.place = some place → d.isUnmoved o place = true) (t : Store) :
    ∃ e, d.saveStore o t = .ok e := by
  unfold saveStore
  rw [hwritable, hstored]
  simp only [Bool.not_true, Bool.false_eq_true, if_false, bind, Except.bind]
  split
  · exact ⟨_, rfl⟩
  · next place hplace =>
    obtain ⟨p, hjournal⟩ := h.absent_journal hplace
    rw [h.isLogged hplace, hunmoved place hplace, hjournal]
    simp only [Bool.not_true, Bool.and_false, Bool.false_eq_true, if_false]
    exact ⟨_, rfl⟩

end IsAlone

end Disk

end DebugCatalog
