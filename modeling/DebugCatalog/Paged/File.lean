import DebugCatalog.Paged.Tree

/-!
# Files of pages

A file of pages holds tables: each is a tree of rows by number, and may have an
index that is a tree of its own.  The first page begins with a header, and lists
the trees with their names and roots.

`File.bytes` lays a file out.  `Source.ofBytes?` reads the header of one, and
`Source.table?` the rows of a table.  Files may have pages of other sizes, and
tables and trees that are not asked for.
-/

namespace DebugCatalog.Paged

/-- Columns by position, rows by number. -/
structure Table where
  name : String
  /-- The statement that makes the table. -/
  statement : String
  rows : List (Int × List Value)
  /-- The columns of its index, which has no equal rows. -/
  unique : List Nat
  /-- The last number given, if no number is given twice. -/
  last : Option Int

structure File where
  version : Int
  /-- How often the file was changed. -/
  changes : Nat
  tables : List Table

/-! ## The list of trees -/

/-- A tree, as the first page lists it. -/
structure Entry where
  kind : String
  name : String
  table : String
  statement : Option String
  tree : Laying Page
  /-- Whether an index is made before the table is listed. -/
  isLate : Bool

def counterName : String := "sqlite_sequence"

/-- The table of the last numbers. -/
def counterEntry (tables : List Table) : Entry where
  kind := "table"
  name := counterName
  table := counterName
  statement := some ("CREATE TABLE " ++ counterName ++ "(name,seq)")
  tree :=
    let given := tables.filterMap fun t => do
      let last ← t.last
      if last = 0 then none else some [Value.text t.name, .integer last]
    numberedTree (given.zipIdx.map fun (row, i) => (i + 1, row))
  isLate := false

namespace Table

def entry (t : Table) : Entry where
  kind := "table"
  name := t.name
  table := t.name
  statement := some t.statement
  tree := numberedTree t.rows
  isLate := !t.unique.isEmpty

/-- The rows of the index: the values of its columns, and the number of the row. -/
def indexRows (t : Table) : List (Nat × List Value) :=
  let rows := t.rows.zipIdx.map fun ((number, row), turn) =>
    (turn, t.unique.map (fun c => row.getD c .null) ++ [.integer number])
  rows.mergeSort fun a b => Value.rowLe a.2 b.2

def indexEntry? (t : Table) : Option Entry :=
  if t.unique.isEmpty then none
  else some {
    kind := "index"
    name := "sqlite_autoindex_" ++ t.name ++ "_1"
    table := t.name
    statement := none
    tree := indexTree t.indexRows
    isLate := false }

end Table

/-- The trees of tables, in the order in which they are made.  The table of the last
numbers is made with the first table that needs it. -/
def entries (all : List Table) (counted : Bool) : List Table → List Entry
  | [] => []
  | t :: rest =>
    let counts := t.last.isSome && !counted
    t.entry :: t.indexEntry?.toList ++ (if counts then [counterEntry all] else []) ++
      entries all (counted || counts) rest

/-- The row of a tree that is listed in a position. -/
def Entry.row (e : Entry) (position : Nat) : List Value :=
  [.text e.kind, .text e.name, .text e.table, .integer (position + 2),
    (e.statement.map Value.text).getD .null]

/-- The position in which a cell of the list is placed, doubled. -/
def Entry.turn (e : Entry) (position : Nat) : Nat :=
  2 * position + if e.isLate then 3 else 0

/-! ## Layout -/

def magic : List UInt8 :=
  "SQLite format 3\x00".toUTF8.toList

/-- The version of the format of rows, and that of the program that is named as the
last one to write. -/
def formatVersion : Nat := 4

def writerVersion : Nat := 3046000

def headerSize : Nat := 100

/-- What is left of the place that was held for the list while tables were made. -/
def listRemnant : Nat := 8

namespace File

def header (f : File) (pages : Nat) : List UInt8 :=
  let words (ns : List Nat) : List UInt8 := ns.flatMap (bigEndian 4)
  magic ++ bigEndian 2 pageSize ++ [1, 1, 0, 64, 32, 32] ++
    words [f.changes, pages, 0, 0, f.tables.length, formatVersion, 0, 0, 1,
      (Word.ofSigned f.version).toNat, 0, 0] ++
    List.replicate 20 0 ++ words [f.changes, writerVersion]

/-- The first page, whose list fits on it. -/
def listPage (trees : List Entry) : Page where
  kind := .numberedLeaf
  cells := trees.zipIdx.map fun (e, i) =>
    let row := rowBytes (e.row i)
    { turn := e.turn i
      bytes := varint row.length ++ numberBytes (i + 1) ++ row }

def bytes (f : File) : ByteArray :=
  let trees := entries f.tables false f.tables
  let lay : Laying Unit := trees.zipIdx.forM fun (e, i) => do
    let root ← e.tree
    modify fun pages => pages.setIfInBounds (i + 1) (root.bytes [] 0)
  let pages := (lay.run (Array.replicate (trees.length + 1) [])).2
  let first := (listPage trees).bytes (f.header pages.size)
    (if trees.isEmpty then 0 else listRemnant)
  ⟨((pages.setIfInBounds 0 first).toList.flatten).toArray⟩

end File

/-! ## Reading -/

/-- A file of pages that is read: the size of its pages, and how much of each is in
use. -/
structure Source where
  file : ByteArray
  size : Nat
  room : Nat

namespace Source

def pageCount (s : Source) : Nat :=
  s.file.size / s.size

/-- A number on a page. -/
def number? (s : Source) (page width offset : Nat) : Option Nat :=
  if page = 0 then none
  else Image.Bytes.number? s.file .big width ((page - 1) * s.size + offset)

/-- What is on a page from an offset on. -/
def bytesFrom (s : Source) (page offset : Nat) : List UInt8 :=
  let start := (page - 1) * s.size
  (s.file.extract (start + offset) (start + s.room)).toList

/-- So many bytes from a chain of pages. -/
def chain? (s : Source) : Nat → Nat → Nat → Option (List UInt8)
  | _, _, 0 => some []
  | 0, _, _ => none
  | pages + 1, page, size => do
    let next ← s.number? page 4 0
    let here := (s.bytesFrom page 4).take size
    some (here ++ (← s.chain? pages next (size - here.length)))

/-- The row at an offset of a leaf, and its number. -/
def cell? (s : Source) (page offset : Nat) : Option (Int × List Value) := do
  let (size, rest) ← varint? (s.bytesFrom page offset)
  let (number, rest) ← varint? rest
  let here := inCell .numberedLeaf s.room size
  if rest.length < here then none
  else
    let tail ←
      if here = size then some []
      else s.chain? s.pageCount (unsigned ((rest.drop here).take 4)) (size - here)
    some (Word.toSigned (UInt64.ofNat number), ← rowOf? (rest.take here ++ tail))

/-- The rows below pages, as many as the file has. -/
def rows? (s : Source) : Nat → List Nat → Option (List (Int × List Value))
  | _, [] => some []
  | 0, _ => none
  | pages + 1, page :: waiting => do
    let start := if page = 1 then headerSize else 0
    let kind ← PageKind.ofCode? (← s.number? page 1 start)
    let count ← s.number? page 2 (start + 3)
    let offsets ← (List.range count).mapM fun i => s.number? page 2 (start + kind.headSize + 2 * i)
    match kind with
    | .numberedLeaf => some ((← offsets.mapM (s.cell? page)) ++ (← s.rows? pages waiting))
    | .numberedBranch =>
      let below ← offsets.mapM (s.number? page 4)
      s.rows? pages (below ++ (← s.number? page 4 (start + 8)) :: waiting)
    | _ => none

/-- The rows of the tree with a given root. -/
def treeRows? (s : Source) (root : Nat) : Option (List (Int × List Value)) :=
  s.rows? s.pageCount [root]

/-- The rows of a table, or nothing if there is none of that name. -/
def table? (s : Source) (name : String) : Option (Option (List (Int × List Value))) := do
  let list ← s.treeRows? 1
  let root := list.findSome? fun (_, row) =>
    match row with
    | .text "table" :: .text n :: _ :: .integer root :: _ => if n == name then some root.toNat else none
    | _ => none
  match root with
  | none => some none
  | some root => some (some (← s.treeRows? root))

/-- A number in the header. -/
def headerWord (s : Source) (offset : Nat) : Nat :=
  (s.number? 1 4 offset).getD 0

def version (s : Source) : Int :=
  signed (bigEndian 4 (s.headerWord 60))

def changes (s : Source) : Nat :=
  s.headerWord 24

/-- A file that begins as one of pages with texts in UTF-8. -/
def ofBytes? (file : ByteArray) : Option Source := do
  let size ← Image.Bytes.number? file .big 2 16
  let unused ← Image.Bytes.number? file .big 1 20
  let texts ← Image.Bytes.number? file .big 4 56
  let size := if size = 1 then 65536 else size
  if (file.extract 0 magic.length).toList = magic && 512 ≤ size && unused + 480 ≤ size && texts = 1 then
    some { file, size, room := size - unused }
  else none

end Source

end DebugCatalog.Paged
