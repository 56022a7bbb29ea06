import DebugCatalog.Disk.Database

/-!
# Hosts

What the program asks of the system it runs on: files, directories, databases
and the time.  Projects and commands work on any host.  A `Disk` held in memory
is one, on which everything they do can be followed.
-/

namespace DebugCatalog

/-- A monad in which files can be read and changed. -/
class Host (m : Type → Type) where
  /-- A database that has been opened. -/
  Handle : Type
  isFile : String → m Bool
  isDirectory : String → m Bool
  canonicalize : String → m (Except FileError String)
  currentDirectory : m String
  read : String → m (Except FileError ByteArray)
  write : String → ByteArray → m (Except FileError Unit)
  /-- Makes a directory in one that is there. -/
  makeDirectory : String → m (Except FileError Unit)
  /-- Opens the database of a name and makes an empty one if there is none. -/
  openStore : String → m (Except StoreError Handle)
  loadStore : Handle → m (Except StoreError Store)
  saveStore : Handle → Store → m (Except StoreError Unit)
  closeStore : Handle → m Unit
  /-- The present time as a text. -/
  now : m String

namespace Host

variable {m : Type → Type} [Monad m] [Host m]

/-- Makes the directory a path leads to.  One that is there already will do. -/
def makeOrKeep (path : String) : m (Except FileError Unit) := do
  match ← makeDirectory path with
  | .ok () => return .ok ()
  | .error e => return if ← isDirectory path then .ok () else .error e

/-- Makes the directory of a path with so many components, and before it the
parents that are missing. -/
def makeWithParents : Nat → String → m (Except FileError Unit)
  | 0, _ => return .ok ()
  | depth + 1, path => do
    match ← makeOrKeep path with
    | .error .notFound =>
      match Path.parent? path with
      | none => return .error (.other "failed to create whole tree")
      | some parent =>
        match ← makeWithParents depth parent with
        | .ok () => makeOrKeep path
        | failed => return failed
    | done => return done

/-- Makes a directory with all its parents.  Those that were made stay when a
later one cannot be. -/
def makeDirectories (path : String) : m (Except FileError Unit) :=
  makeWithParents (Path.components path).length path

end Host

/-- Programs that run on a disk at a given time. -/
abbrev OnDisk := ReaderT String (StateM Disk)

namespace OnDisk

/-- A change that may fail and then leaves the disk as it is. -/
def change {ε α : Type} (f : Disk → Except ε (Disk × α)) : OnDisk (Except ε α) :=
  fun _ => do
    match f (← get) with
    | .ok (d, a) => set d; pure (.ok a)
    | .error e => pure (.error e)

end OnDisk

instance : Host OnDisk where
  Handle := Disk.Opened
  isFile path := do return (← get).isFile path
  isDirectory path := do return (← get).isDirectory path
  canonicalize path := do return (← get).canonicalize path
  currentDirectory := do return Disk.placeText (← get).current
  read path := do return (← get).read path
  write path b := OnDisk.change fun d => do .ok (← d.write path b, ())
  makeDirectory path := OnDisk.change fun d => do .ok (← d.makeDirectory path, ())
  openStore path := OnDisk.change fun d => d.openStore path
  loadStore o := OnDisk.change fun d => d.loadStore o
  saveStore o s := OnDisk.change fun d => do .ok (← d.saveStore o s, ())
  closeStore o := modify fun d => d.closeStore o
  now := read

end DebugCatalog
