import DebugCatalog.Word

/-!
# Values in rows

A row is a list of values: integers, texts, and the absence of one.  It is
written as the kinds of its values, each a number of its own, and then what the
kinds leave open.  `rowOf?` reads what `rowBytes` writes, and refuses rows with
values of other kinds.

Numbers of any size take as few bytes as they need: seven bits in each, the most
significant first, and a mark on all but the last.  The ninth byte has no mark
and eight bits.
-/

namespace DebugCatalog.Paged

inductive Value where
  | null
  | integer (n : Int)
  | text (s : String)
  deriving DecidableEq

/-! ## Numbers -/

/-- The last `width` bytes of a number, the most significant first. -/
def bigEndian : Nat → Nat → List UInt8
  | 0, _ => []
  | width + 1, n => bigEndian width (n / 256) ++ [UInt8.ofNat (n % 256)]

/-- Groups of seven bits with marks, in front of what follows them. -/
def marked (n : Nat) (rest : List UInt8) : List UInt8 :=
  if n = 0 then rest else marked (n / 128) (UInt8.ofNat (128 + n % 128) :: rest)
termination_by n

/-- Numbers from here on take nine bytes: `2 ^ 56`. -/
def wide : Nat := 0x100000000000000

def varint (n : Nat) : List UInt8 :=
  if n < wide then marked (n / 128) [UInt8.ofNat (n % 128)]
  else
    let long := marked (n / 256) [UInt8.ofNat (n % 256)]
    List.replicate (9 - long.length) 0x80 ++ long

/-- A number of at most so many marked bytes and one more, which follows the given
start. -/
def varintFrom? : Nat → Nat → List UInt8 → Option (Nat × List UInt8)
  | _, _, [] => none
  | 0, start, b :: rest => some (256 * start + b.toNat, rest)
  | more + 1, start, b :: rest =>
    if b < 128 then some (128 * start + b.toNat, rest)
    else varintFrom? more (128 * start + (b.toNat - 128)) rest

/-- The number that bytes begin with, and the bytes behind it. -/
def varint? (bytes : List UInt8) : Option (Nat × List UInt8) :=
  varintFrom? 8 0 bytes

/-- The number in bytes, the most significant first. -/
def unsigned (bytes : List UInt8) : Nat :=
  bytes.foldl (fun n b => 256 * n + b.toNat) 0

/-- The signed number in bytes. -/
def signed (bytes : List UInt8) : Int :=
  let start : Int := if bytes.headD 0 < 128 then 0 else -1
  bytes.foldl (fun n b => 256 * n + b.toNat) start

/-! ## Single values -/

/-- The kinds of integers that have bytes: how many, and the first number that
does not fit. -/
def integerKinds : List (Nat × Nat × Int) :=
  [(1, 1, 0x80), (2, 2, 0x8000), (3, 3, 0x800000), (4, 4, 0x80000000), (5, 6, 0x800000000000),
    (6, 8, 0x8000000000000000)]

def zeroKind : Nat := 8

def oneKind : Nat := 9

/-- The kind of the empty text.  A text with a byte more is two kinds further on. -/
def textKind : Nat := 13

/-- The kind of a value. -/
def Value.kind : Value → Nat
  | .null => 0
  | .integer 0 => zeroKind
  | .integer 1 => oneKind
  | .integer n => ((integerKinds.find? fun (_, _, bound) => -bound ≤ n && n < bound).map Prod.fst).getD 6
  | .text s => textKind + 2 * s.utf8ByteSize

/-- How many bytes a value of a kind has, if it is one of those that are read here. -/
def kindSize? (kind : Nat) : Option Nat :=
  if kind = 0 || kind = zeroKind || kind = oneKind then some 0
  else if textKind ≤ kind then
    if kind % 2 = 1 then some ((kind - textKind) / 2) else none
  else (integerKinds.lookup kind).map Prod.fst

/-- What the kind of a value leaves open. -/
def Value.body (v : Value) : List UInt8 :=
  match v with
  | .null => []
  | .integer n => bigEndian ((kindSize? v.kind).getD 0) (Word.ofSigned n).toNat
  | .text s => s.toUTF8.toList

def valueOf? (kind : Nat) (body : List UInt8) : Option Value :=
  if kind = 0 then some .null
  else if kind = zeroKind then some (.integer 0)
  else if kind = oneKind then some (.integer 1)
  else if textKind ≤ kind then (String.fromUTF8? ⟨body.toArray⟩).map .text
  else some (.integer (signed body))

/-- The order of values: none, integers, texts. -/
def Value.compare : Value → Value → Ordering
  | .null, .null => .eq
  | .null, _ => .lt
  | _, .null => .gt
  | .integer a, .integer b => Ord.compare a b
  | .integer _, .text _ => .lt
  | .text _, .integer _ => .gt
  | .text a, .text b => Ord.compare a b

/-! ## Rows -/

/-- Whether a row does not come after another. -/
def Value.rowLe : List Value → List Value → Bool
  | [], _ => true
  | _ :: _, [] => false
  | a :: as, b :: bs =>
    match a.compare b with
    | .lt => true
    | .eq => rowLe as bs
    | .gt => false

/-- The kinds of a row, with the size of all that in front. -/
def kindBytes (row : List Value) : List UInt8 :=
  let kinds := row.flatMap fun v => varint v.kind
  let size := varint (kinds.length + 1)
  if size.length = 1 then size ++ kinds else varint (kinds.length + 2) ++ kinds

def rowBytes (row : List Value) : List UInt8 :=
  kindBytes row ++ row.flatMap Value.body

/-- The numbers that bytes are made of. -/
def varints? : Nat → List UInt8 → Option (List Nat)
  | _, [] => some []
  | 0, _ => none
  | fuel + 1, bytes => do
    let (n, rest) ← varint? bytes
    some (n :: (← varints? fuel rest))

def valuesOf? : List Nat → List UInt8 → Option (List Value)
  | [], _ => some []
  | kind :: kinds, bytes => do
    let size ← kindSize? kind
    if bytes.length < size then none
    else some ((← valueOf? kind (bytes.take size)) :: (← valuesOf? kinds (bytes.drop size)))

def rowOf? (bytes : List UInt8) : Option (List Value) := do
  let (size, rest) ← varint? bytes
  let head := size - (bytes.length - rest.length)
  if rest.length < head then none
  else valuesOf? (← varints? head (rest.take head)) (rest.drop head)

example : rowOf? (rowBytes [.null, .integer (-129), .integer 1, .text "ab"]) =
    some [.null, .integer (-129), .integer 1, .text "ab"] := by decide +kernel

end DebugCatalog.Paged
