import DebugCatalog.Image.Bytes
import DebugCatalog.Paged.Value

/-!
# Pages

A page is a node of a tree.  Its cells are listed in front, in the order of their
keys, and stand at its end, the one that was placed first behind all others.

Rows are kept in a tree by number, or in the order of their values as an index.
A cell holds a row, or as much of it as a page may, and the number of the page
that goes on.  On a branch it also holds the number of a page below, and there is
one page below more than there are cells.
-/

namespace DebugCatalog.Paged

inductive PageKind where
  | numberedLeaf
  | numberedBranch
  | indexLeaf
  | indexBranch
  deriving DecidableEq

namespace PageKind

def all : List PageKind :=
  [.numberedLeaf, .numberedBranch, .indexLeaf, .indexBranch]

def code : PageKind → Nat
  | .numberedLeaf => 13
  | .numberedBranch => 5
  | .indexLeaf => 10
  | .indexBranch => 2

def ofCode? (code : Nat) : Option PageKind :=
  all.find? fun k => k.code == code

def isBranch : PageKind → Bool
  | .numberedBranch | .indexBranch => true
  | _ => false

/-- How many bytes stand in front of the list of cells. -/
def headSize (k : PageKind) : Nat :=
  if k.isBranch then 12 else 8

end PageKind

/-- The size of the pages that are written. -/
def pageSize : Nat := 4096

/-! ## How much of a row is in its cell -/

/-- The most bytes of a row that a cell may hold, on pages with so much room. -/
def mostInCell (k : PageKind) (room : Nat) : Nat :=
  match k with
  | .numberedLeaf | .numberedBranch => room - 35
  | .indexLeaf | .indexBranch => (room - 12) * 64 / 255 - 23

/-- So many bytes at least are in the cell of a row that goes on elsewhere. -/
def leastInCell (room : Nat) : Nat :=
  (room - 12) * 32 / 255 - 23

/-- How much of a row of a given size is in its cell.  What is not fills pages, as
far as it can be had. -/
def inCell (k : PageKind) (room size : Nat) : Nat :=
  if size ≤ mostInCell k room then size
  else
    let least := leastInCell room
    let tail := least + (size - least) % (room - 4)
    if tail ≤ mostInCell k room then tail else least

/-! ## Writing -/

/-- A cell, and its turn to be placed. -/
structure Cell where
  turn : Nat
  bytes : List UInt8

/-- The bytes that a cell takes on a page, with its entry in the list. -/
def Cell.size (c : Cell) : Nat :=
  c.bytes.length + 2

structure Page where
  kind : PageKind
  cells : List Cell
  /-- The last page below a branch. -/
  last : Nat := 0

namespace Page

/-- How much room cells may take on a page behind a header. -/
def capacity (kind : PageKind) (header : Nat) : Nat :=
  pageSize - header - kind.headSize

def fits (p : Page) (header : Nat) : Bool :=
  p.cells.foldl (fun n c => n + c.size) 0 ≤ capacity p.kind header

/-- The cells as they are placed, the first one last, each with where it begins. -/
def placed : Nat → List Cell → List (Nat × Cell)
  | _, [] => []
  | stop, c :: cs => placed (stop - c.bytes.length) cs ++ [(stop - c.bytes.length, c)]

/-- The bytes of a page, of which the first ones are given and the last ones are
left free. -/
def bytes (p : Page) (header : List UInt8) (free : Nat) : List UInt8 :=
  let stop := pageSize - free
  let cells := placed stop (p.cells.mergeSort fun a b => a.turn ≤ b.turn)
  let start := (cells.head?.map Prod.fst).getD stop
  let list := p.cells.flatMap fun c =>
    bigEndian 2 (((cells.find? fun (_, x) => x.turn == c.turn).map Prod.fst).getD 0)
  let head := header ++ bigEndian 1 p.kind.code ++ bigEndian 2 (if free = 0 then 0 else stop) ++
    bigEndian 2 p.cells.length ++ bigEndian 2 start ++ [0] ++
    (if p.kind.isBranch then bigEndian 4 p.last else []) ++ list
  head ++ List.replicate (start - head.length) 0 ++ cells.flatMap (fun (_, c) => c.bytes) ++
    (bigEndian 2 0 ++ bigEndian 2 free ++ List.replicate (free - 4) 0).take free

end Page

end DebugCatalog.Paged
