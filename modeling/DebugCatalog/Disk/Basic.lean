import DebugCatalog.FileError
import DebugCatalog.Path
import DebugCatalog.Store.File

/-!
# Disks

A disk is a tree of directories, files and symbolic links, held as a list of the
places that have something, together with the contents of each file and a current
directory.  The root directory is always there and is not listed.

A file has a number of its own.  Whoever has opened it goes on using it under
that number, also when its place is gone.

`Disk.resolve` follows a path to what it leads to.  It says whether something is
there, or that nothing is but could be made.  What the last name of a path may be
depends on the `Disk.Purpose` for which it is looked up.
-/

namespace DebugCatalog

/-- The names that lead from the root to a place. -/
abbrev Place := List (List Char)

inductive Disk.Node where
  | directory
  | file (number : Nat)
  | link (target : String)
  deriving DecidableEq

/-- A file holds bytes, or a database that is read and written as a whole and counts
its changes. -/
inductive Disk.Contents where
  | bytes (b : ByteArray)
  | store (s : Store) (changes : Nat)

def Disk.Contents.toBytes : Disk.Contents → ByteArray
  | .bytes b => b
  | .store s changes => s.toBytes changes

structure Disk where
  nodes : List (Place × Disk.Node)
  contents : List (Nat × Disk.Contents)
  /-- Every file has a smaller number. -/
  next : Nat
  current : Place

/-- Why a path is looked up. -/
inductive Disk.Purpose where
  /-- To use what is there.  A link is followed. -/
  | use
  /-- To write a file, which may have to be made.  A link is followed, and a slash
  behind the last name asks for what no file can be. -/
  | write
  /-- To make or remove the name itself.  A link is not followed. -/
  | name
  deriving DecidableEq

/-- Where a path leads. -/
inductive Disk.Target where
  | present (place : Place) (node : Disk.Node)
  /-- The directory is there, and has no such name. -/
  | absent (place : Place)

namespace Disk

def maxNameSize : Nat := 255

def maxPathSize : Nat := 4095

/-- So many links may be followed on the way. -/
def maxLinks : Nat := 40

def node? (d : Disk) (place : Place) : Option Node :=
  if place = [] then some .directory else d.nodes.lookup place

/-- The text of a place, as an absolute path. -/
def placeText (place : Place) : String :=
  String.ofList ('/' :: Path.ofPieces place)

/-- Where the pieces of a path lead from a directory, with so many links to
follow.  Slashes may stand behind the last name. -/
def walk (d : Disk) (purpose : Purpose) (links : Nat) (directory : Place)
    (pieces : List (List Char)) : Except FileError Target :=
  match pieces with
  | [] => .ok (.present directory .directory)
  | piece :: rest =>
    let isLast := rest.all List.isEmpty
    if Path.isIdle piece then walk d purpose links directory rest
    else if piece = ['.', '.'] then walk d purpose links directory.dropLast rest
    else if purpose = .write && isLast && !rest.isEmpty then .error .isADirectory
    else if maxNameSize < (String.ofList piece).utf8ByteSize then .error .nameTooLong
    else
      let place := directory ++ [piece]
      match d.node? place with
      | none => if isLast then .ok (.absent place) else .error .notFound
      | some .directory => walk d purpose links place rest
      | some (.file n) =>
        if rest.isEmpty || isLast && purpose = .name then .ok (.present place (.file n))
        else .error .notADirectory
      | some (.link target) =>
        if isLast && purpose = .name then .ok (.present place (.link target))
        else
          match links with
          | 0 => .error .tooManyLinks
          | links + 1 =>
            walk d purpose links (if Path.isAbsolute target then [] else directory)
              (Path.pieces target.toList ++ rest)
termination_by (links, pieces.length)

def resolve (d : Disk) (purpose : Purpose) (path : String) : Except FileError Target :=
  if path.toList.contains '\x00' then .error .invalidPath
  else if path = "" then .error .notFound
  else if maxPathSize < path.utf8ByteSize then .error .nameTooLong
  else d.walk purpose maxLinks (if Path.isAbsolute path then [] else d.current)
    (Path.pieces path.toList)

/-- What is at a path, with all links followed. -/
def find (d : Disk) (path : String) : Except FileError (Place × Node) := do
  match ← d.resolve .use path with
  | .present place node => .ok (place, node)
  | .absent _ => .error .notFound

def isFile (d : Disk) (path : String) : Bool :=
  match d.find path with
  | .ok (_, .file _) => true
  | _ => false

def isDirectory (d : Disk) (path : String) : Bool :=
  match d.find path with
  | .ok (_, .directory) => true
  | _ => false

/-- The absolute path of what is at a path, without links. -/
def canonicalize (d : Disk) (path : String) : Except FileError String := do
  .ok (placeText (← d.find path).1)

/-- The bytes of a file. -/
def read (d : Disk) (path : String) : Except FileError ByteArray := do
  match ← d.find path with
  | (_, .file n) => .ok (((d.contents.lookup n).map Contents.toBytes).getD .empty)
  | _ => .error .isADirectory

end Disk

end DebugCatalog
