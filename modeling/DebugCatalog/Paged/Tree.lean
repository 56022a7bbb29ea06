import DebugCatalog.Paged.Page

/-!
# Laying trees

How rows are laid out on pages.  `numberedTree` and `indexTree` fill pages one
after the other and give the root of the tree, which is yet without a place.  So
a root may have a place of its own before anything below it has one.

Rows by number stand on leaves only, and a branch says the last number of each
page below.  An index has each row once, and some on branches: they separate the
pages below.
-/

namespace DebugCatalog.Paged

/-- Work that adds pages behind those that are there.  Their numbers begin at one. -/
abbrev Laying := StateM (Array (List UInt8))

/-- Adds a page and gives its number. -/
def addPage (bytes : List UInt8) : Laying Nat :=
  modifyGet fun pages => (pages.size + 1, pages.push bytes)

/-- How much of a row is on a page that has nothing else. -/
def chainRoom : Nat := pageSize - 4

/-- Puts bytes on pages of their own, each with the number of the next, and gives
the number of the first. -/
def addChain (bytes : List UInt8) : Laying Nat := do
  if _h : bytes = [] then return 0
  let rest := bytes.drop chainRoom
  let before ← get
  let next := if rest = [] then 0 else before.size + 2
  let here := bytes.take chainRoom
  let number ← addPage (bigEndian 4 next ++ here ++ List.replicate (chainRoom - here.length) 0)
  let _ ← addChain rest
  return number
termination_by bytes.length
decreasing_by
  have := List.length_pos_iff.2 _h
  simp only [List.length_drop, chainRoom, pageSize]
  omega

/-- The cell of a row, whose size and the given bytes stand in front. -/
def cellBytes (k : PageKind) (front row : List UInt8) : Laying (List UInt8) := do
  let here := inCell k pageSize row.length
  let start := varint row.length ++ front ++ row.take here
  if here < row.length then return start ++ bigEndian 4 (← addChain (row.drop here))
  return start

/-! ## Branches -/

/-- What goes into a cell: the page below it, on a branch, and what it says. -/
structure Item where
  turn : Nat
  below : Option Nat
  key : List UInt8

def Item.cell (i : Item) : Cell where
  turn := i.turn
  bytes := (i.below.map (bigEndian 4)).getD [] ++ i.key

def pageOf (kind : PageKind) (items : List Item) (last : Nat) : Page where
  kind
  cells := items.map Item.cell
  last

/-- How many of the first items there is room for. -/
def fitting (room : Nat) : List Item → Nat
  | [] => 0
  | i :: rest => if i.cell.size ≤ room then fitting (room - i.cell.size) rest + 1 else 0

/-- Items in parts that there is room for.  Each part but the last is followed by an
item that separates it from the next, and the last part is not empty. -/
def separate (room : Nat) (items : List Item) : List (List Item × Item) × List Item :=
  let n := fitting room items
  match _h : items.drop n with
  | [] => ([], items)
  | [item] =>
    match (items.take n).getLast? with
    | some separator => ([(items.take (n - 1), separator)], [item])
    | none => ([], items)
  | separator :: next :: rest =>
    let (parts, last) := separate room (next :: rest)
    ((items.take n, separator) :: parts, last)
termination_by items.length
decreasing_by
  have := congrArg List.length _h
  simp only [List.length_drop, List.length_cons] at this ⊢
  omega

/-- Lays one layer of a tree and gives the items of the layer above. -/
def addLayer (kind : PageKind) (items : List Item) (last : Nat) : Laying (List Item × Nat) := do
  let (parts, tail) := separate (Page.capacity kind 0) items
  let above ← parts.mapM fun (part, separator) => do
    let number ← addPage ((pageOf kind part (separator.below.getD 0)).bytes [] 0)
    return { turn := number, below := some number, key := separator.key }
  return (above, ← addPage ((pageOf kind tail last).bytes [] 0))

/-- Lays branches over items until those that are left fit on the root.  Every layer
has fewer items than the one below it. -/
def addBranches : Nat → PageKind → List Item → Nat → Laying Page
  | 0, kind, items, last => return pageOf kind items last
  | layers + 1, kind, items, last => do
    let root := pageOf kind items last
    if root.fits 0 then return root
    let (above, last) ← addLayer kind items last
    addBranches layers kind above last

/-! ## Trees -/

/-- The tree of rows in the order of their values.  Each comes with its turn. -/
def indexTree (rows : List (Nat × List Value)) : Laying Page := do
  let items ← rows.mapM fun (turn, row) => do
    return { turn, below := none, key := ← cellBytes .indexLeaf [] (rowBytes row) }
  let leaf := pageOf .indexLeaf items 0
  if leaf.fits 0 then return leaf
  let (above, last) ← addLayer .indexLeaf items 0
  addBranches above.length .indexBranch above last

/-- The number of a row as it is written. -/
def numberBytes (number : Int) : List UInt8 :=
  varint (Word.ofSigned number).toNat

/-- Items in parts that there is room for. -/
def parts (room : Nat) (items : List (Int × Item)) : List (List (Int × Item)) :=
  let n := max 1 (fitting room (items.map Prod.snd))
  if _h : items = [] then [] else items.take n :: parts room (items.drop n)
termination_by items.length
decreasing_by
  have := List.length_pos_iff.2 _h
  simp only [List.length_drop]
  omega

/-- The tree of rows by number. -/
def numberedTree (rows : List (Int × List Value)) : Laying Page := do
  let items ← rows.zipIdx.mapM fun ((number, row), turn) => do
    let key ← cellBytes .numberedLeaf (numberBytes number) (rowBytes row)
    return ((number, { turn, below := none, key }) : Int × Item)
  let leaf := pageOf .numberedLeaf (items.map Prod.snd) 0
  if leaf.fits 0 then return leaf
  let above ← (parts (Page.capacity .numberedLeaf 0) items).mapM fun part => do
    let number ← addPage ((pageOf .numberedLeaf (part.map Prod.snd) 0).bytes [] 0)
    return {
      turn := number
      below := some number
      key := numberBytes ((part.getLast?.map Prod.fst).getD 0) : Item }
  let last := (above.getLast?.bind Item.below).getD 0
  addBranches above.length .numberedBranch above.dropLast last

end DebugCatalog.Paged
