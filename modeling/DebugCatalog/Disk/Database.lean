import DebugCatalog.Disk.Change
import DebugCatalog.Store.Location

/-!
# Databases on a disk

A database is a file that is read and written as a whole.  Two other files may
stand beside it.  A change is first noted in a journal, which is gone once the
change is complete; one that is found later is left over from a change that was
not.  A log takes the place of the journal as long as the database is in use, if
it is there when the database is read.

The path of a database loses its links and its `..` one name after the other.  So
a path may go through a directory that is not there and back, and may follow more
links than paths of other files.
-/

namespace DebugCatalog.Disk

/-! ## Places -/

/-- A database with a longer path, journal included, cannot be used. -/
def maxDatabasePath : Nat := 512

/-- So many links may be on the path of a database. -/
def maxDatabaseLinks : Nat := 201

def journalEnding : String := "-journal"

def logEnding : String := "-wal"

/-- The ending of the index of a log. -/
def indexEnding : String := "-shm"

/-- The size of a place as an absolute path. -/
def placeSize (place : Place) : Nat :=
  place.foldl (fun size name => size + 1 + (String.ofList name).utf8ByteSize) 0

/-- Takes the pieces of the path of a database to a place without links. -/
def databaseWalk (d : Disk) (links : Nat) (place : Place) (pieces : List (List Char)) :
    Option Place :=
  match pieces with
  | [] => some place
  | piece :: rest =>
    if Path.isIdle piece then databaseWalk d links place rest
    else if piece = ['.', '.'] then databaseWalk d links place.dropLast rest
    else
      let next := place ++ [piece]
      if maxDatabasePath ≤ placeSize next then none
      else
        match d.walk .name 0 [] next with
        | .ok (.present _ (.link target)) =>
          match links with
          | 0 => none
          | links + 1 =>
            databaseWalk d links (if Path.isAbsolute target then [] else place)
              (Path.pieces target.toList ++ rest)
        | .ok _ => databaseWalk d links next rest
        | .error .notFound => databaseWalk d links next rest
        | .error _ => none
termination_by (links, pieces.length)

def databasePlace? (d : Disk) (path : String) : Option Place := do
  let place ← d.databaseWalk maxDatabaseLinks (if Path.isAbsolute path then [] else d.current)
    (Path.pieces path.toList)
  if place = [] || maxDatabasePath < placeSize place + journalEnding.utf8ByteSize then none
  else some place

/-- The place of a file beside a database. -/
def beside (place : Place) (ending : String) : Place :=
  match place.getLast? with
  | some name => place.dropLast ++ [name ++ ending.toList]
  | none => []

/-! ## Opening -/

/-- An open database: its file, the place it was opened at, unless what stands beside
it is of no importance, whether it may be changed, and the logs it may have. -/
structure Opened where
  number : Nat
  place : Option Place
  writable : Bool
  logs : LogUse

/-- The file at the place of a database and its number, made if there is none and it
may be. -/
def openAt (d : Disk) (place : Place) (access : Access) : Except StoreError (Disk × Place × Nat) :=
  match d.walk .write 0 [] place with
  | .ok (.present place (.file number)) => .ok (d, place, number)
  | .ok (.absent place) =>
    if access = .create then
      let (d, number) := d.newFile (.bytes .empty)
      .ok (d.setNode place (.file number), place, number)
    else .error .cannotOpen
  | _ => .error .cannotOpen

/-- Opens the database of a name. -/
def openStore (d : Disk) (name : String) : Except StoreError (Disk × Opened) :=
  match Location.parse? name with
  | none => .error .cannotOpen
  | some l =>
    let writable := l.isWritable
    match l.storage with
    | .transient =>
      let (d, number) := d.newFile (.bytes .empty)
      .ok (d, { number, place := none, writable, logs := .none })
    | .file logs =>
      match d.databasePlace? l.path with
      | none => .error .cannotOpen
      | some place => do
        let (d, place, number) ← d.openAt place l.access
        .ok (d, { number, place := if l.isStill then none else some place, writable, logs })

/-! ## What stands beside a database -/

/-- Whether a file is a database without anything in it.  A single byte counts as
nothing. -/
def Contents.isVacant : Contents → Bool
  | .bytes b => b.size ≤ 1
  | .store _ _ => false

def isVacant (d : Disk) (o : Opened) : Bool :=
  ((d.contents.lookup o.number).map Contents.isVacant).getD true

/-- The first byte of a file, if there is one. -/
def firstByte? (d : Disk) (number : Nat) : Option UInt8 :=
  match d.contents.lookup number with
  | some (.bytes b) => b[0]?
  | some (.store _ _) => Paged.magic.head?
  | none => none

/-- What stands at a place itself, unless it is a file without bytes, or a link
that leads to one or nowhere. -/
def standing? (d : Disk) (place : Place) : Option (Place × Node) :=
  let isThere : Bool := match d.walk .use maxLinks [] place with
    | .ok (.present _ (.file n)) => (d.firstByte? n).isSome
    | .ok (.present _ _) => true
    | _ => false
  match d.walk .name maxLinks [] place with
  | .ok (.present place node) => if isThere then some (place, node) else none
  | _ => none

/-- A journal beside a vacant database belongs to none.  Beside another it undoes
what it notes, unless it begins with a zero, and so it must be a file. -/
def settleJournal (d : Disk) (o : Opened) (place : Place) : Except StoreError Disk :=
  match d.standing? (beside place journalEnding) with
  | none => .ok d
  | some (journal, node) =>
    if d.isVacant o then
      .ok (if o.writable && node != .directory then d.unlink journal else d)
    else
      match node with
      | .file n =>
        if d.firstByte? n = some 0 then .ok d
        else if o.writable then .ok (d.unlink journal)
        else .error .cannotOpen
      | _ => .error .cannotOpen

/-- A log beside a vacant database belongs to none.  Beside another it is used from
then on, if logs may be used, and may have an index. -/
def settleLog (d : Disk) (o : Opened) (place : Place) : Except StoreError Disk :=
  match d.standing? (beside place logEnding) with
  | none => .ok d
  | some (log, node) =>
    if d.isVacant o then
      if node = .directory then .error .cannotOpen else .ok (d.unlink log)
    else
      match node with
      | .file _ =>
        match o.logs, d.walk .name maxLinks [] (beside place indexEnding) with
        | .none, _ => .error .cannotOpen
        | .indexed, .ok (.absent index) =>
          let (d, n) := d.newFile (.bytes (ByteArray.mk #[0]))
          .ok (d.setNode index (.file n))
        | _, _ => .ok d
      | _ => .error .cannotOpen

/-- Whether changes go to a log. -/
def isLogged (d : Disk) (o : Opened) (place : Place) : Bool :=
  !d.isVacant o && (d.standing? (beside place logEnding)).isSome

def settle (d : Disk) (o : Opened) : Except StoreError Disk :=
  match o.place with
  | none => .ok d
  | some place => do
    let d ← if d.isLogged o place then pure d else d.settleJournal o place
    d.settleLog o place

/-! ## Reading, writing and closing -/

/-- The store that a file is, and how often it was changed. -/
def storeOf : Contents → Except StoreError (Store × Nat)
  | .store s changes => .ok (s, changes)
  | .bytes b =>
    if (Contents.bytes b).isVacant then .ok (.blank, 0)
    else
      match Store.ofBytes? b with
      | some found => .ok found
      | none => .error .noDatabase

/-- The store in an open database, and how often it was changed. -/
def storeIn (d : Disk) (o : Opened) : Except StoreError (Store × Nat) :=
  ((d.contents.lookup o.number).map storeOf).getD (.ok (.blank, 0))

/-- The store in a database, once what stands beside it is settled. -/
def loadStore (d : Disk) (o : Opened) : Except StoreError (Disk × Store) := do
  let d ← d.settle o
  .ok (d, (← d.storeIn o).1)

/-- Whether the file of a database is still where it was opened. -/
def isUnmoved (d : Disk) (o : Opened) (place : Place) : Bool :=
  match d.walk .use maxLinks [] place with
  | .ok (.present _ (.file n)) => n = o.number
  | _ => false

/-- Writes a database that may be changed, is still in its place, and can have a
journal. -/
def saveStore (d : Disk) (o : Opened) (s : Store) : Except StoreError Disk := do
  if !o.writable then .error .cannotOpen
  else
    let (before, changes) ← d.storeIn o
    let saved := d.setContents o.number (.store s (changes + before.changesTo s))
    match o.place with
    | none => .ok saved
    | some place =>
      if d.isLogged o place then .ok saved
      else if !d.isVacant o && !d.isUnmoved o place then .error .cannotOpen
      else
        match d.walk .name maxLinks [] (beside place journalEnding) with
        | .ok (.absent _) => .ok saved
        | .ok (.present journal (.file _)) => .ok (saved.unlink journal)
        | _ => .error .cannotOpen

/-- Closes a database, which ends the use of its log. -/
def closeStore (d : Disk) (o : Opened) : Disk :=
  match o.place with
  | none => d
  | some place =>
    if d.isLogged o place then
      (d.unlink (beside place logEnding)).unlink (beside place indexEnding)
    else d

end DebugCatalog.Disk
