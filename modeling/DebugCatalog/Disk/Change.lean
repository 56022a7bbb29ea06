import DebugCatalog.Disk.Basic

/-!
# Changes to a disk

Making and removing what is at a path, and writing files.  A change takes a disk
to a new one, or fails and changes nothing.  Only the removal of a directory may
fail when part of it is done.
-/

namespace DebugCatalog.Disk

def setNode (d : Disk) (place : Place) (node : Node) : Disk :=
  { d with nodes := (place, node) :: d.nodes.filter fun (p, _) => p != place }

def setContents (d : Disk) (number : Nat) (c : Contents) : Disk :=
  { d with contents := (number, c) :: d.contents.filter fun (n, _) => n != number }

/-- A new file, which is nowhere yet. -/
def newFile (d : Disk) (c : Contents) : Disk × Nat :=
  ({ d.setContents d.next c with next := d.next + 1 }, d.next)

/-- Whether a path says that it leads to a directory. -/
def namesDirectory (path : String) : Bool :=
  path.toList.getLast? == some '/'

/-- The file at a path, made with the given contents if there is none. -/
def ensureFile (d : Disk) (path : String) (c : Contents) : Except FileError (Disk × Place × Nat) := do
  match ← d.resolve .write path with
  | .present place (.file n) => .ok (d, place, n)
  | .present _ _ => .error .isADirectory
  | .absent place =>
    let (d, n) := d.newFile c
    .ok (d.setNode place (.file n), place, n)

def write (d : Disk) (path : String) (b : ByteArray) : Except FileError Disk := do
  let (d, _, n) ← d.ensureFile path (.bytes b)
  .ok (d.setContents n (.bytes b))

/-! ## Directories -/

def makeDirectory (d : Disk) (path : String) : Except FileError Disk := do
  match ← d.resolve .name path with
  | .present _ _ => .error .exists
  | .absent place => .ok (d.setNode place .directory)

/-! ## Links and removal -/

def link (d : Disk) (target path : String) : Except FileError Disk := do
  if target.toList.contains '\x00' || path.toList.contains '\x00' then .error .invalidPath
  if target = "" then .error .notFound
  if maxPathSize < target.utf8ByteSize then .error .nameTooLong
  match ← d.resolve .name path with
  | .present _ _ => .error .exists
  | .absent place =>
    if namesDirectory path then .error .notFound else .ok (d.setNode place (.link target))

def unlink (d : Disk) (place : Place) : Disk :=
  { d with nodes := d.nodes.filter fun (p, _) => !place.isPrefixOf p }

/-- Takes away everything in a directory. -/
def empty (d : Disk) (place : Place) : Disk :=
  { d with nodes := d.nodes.filter fun (p, _) => p = place || !place.isPrefixOf p }

/-- The last name of a path, without the slashes behind it. -/
def lastName (path : String) : List Char :=
  ((Path.pieces path.toList).reverse.find? fun piece => !piece.isEmpty).getD []

/-- Removes the name of an empty directory, which cannot be a dot or two. -/
def removeDirectory (d : Disk) (path : String) : Except FileError Disk := do
  match ← d.resolve .name path with
  | .present place .directory =>
    if lastName path = ['.'] then .error .invalidArgument
    else if lastName path = ['.', '.'] then .error .notEmpty
    else .ok (d.unlink place)
  | .present _ _ => .error .notADirectory
  | .absent _ => .error .notFound

/-- Removes the name of a file or of a link. -/
def removeFile (d : Disk) (path : String) : Except FileError Disk := do
  match ← d.resolve .name path with
  | .present _ .directory => .error .isADirectory
  | .present place _ =>
    if namesDirectory path then .error .notADirectory else .ok (d.unlink place)
  | .absent _ => .error .notFound

/-- Whether the name of a path is that of a link. -/
def isLink (d : Disk) (path : String) : Bool :=
  match d.resolve .name path with
  | .ok (.present _ (.link _)) => !namesDirectory path
  | _ => false

/-- Removes what is at a path, a directory with everything in it.  What was in a
directory is gone even if the directory has to stay.  It need not be there any
more when its turn comes. -/
def remove (d : Disk) (path : String) : Disk × Except FileError Unit :=
  match d.find path with
  | .ok (place, .directory) =>
    if d.isLink path then settled d (d.removeFile path)
    else
      let emptied := d.empty place
      match emptied.removeDirectory path with
      | .error .notFound => (emptied, .ok ())
      | result => settled emptied result
  | _ => settled d (d.removeFile path)
where
  settled (d : Disk) : Except FileError Disk → Disk × Except FileError Unit
    | .ok d => (d, .ok ())
    | .error e => (d, .error e)

end DebugCatalog.Disk
