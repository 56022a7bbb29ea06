/-!
# Reading binary tables

Numbers, strings and rows of numbers at an offset of a byte sequence.  Nothing
is read across the end: every function that could answers with an option, and
an absent result is how a header turns out to be unreadable.
-/

namespace DebugCatalog.Image

/-- The order of the bytes of a number. -/
inductive Endian where
  | little
  | big
  deriving DecidableEq

namespace Bytes

/-- The number in `width` bytes from an offset on. -/
def number? (b : ByteArray) (order : Endian) (width offset : Nat) : Option Nat :=
  if offset + width ≤ b.size then
    let digits := (List.range width).map fun i => (b[offset + i]?.getD 0).toNat
    let significant := match order with
      | .big => digits
      | .little => digits.reverse
    some (significant.foldl (fun n d => n * 256 + d) 0)
  else none

/-- Numbers of the given widths, one behind the other. -/
def row? (b : ByteArray) (order : Endian) : List Nat → Nat → Option (List Nat)
  | [], _ => some []
  | width :: widths, offset => do
    let n ← number? b order width offset
    let rest ← row? b order widths (offset + width)
    some (n :: rest)

/-- How many bytes numbers of the given widths take. -/
def rowSize (widths : List Nat) : Nat :=
  widths.foldl (fun size width => size + width) 0

/-- Rows of numbers, one behind the other. -/
def rows? (b : ByteArray) (order : Endian) (widths : List Nat) : Nat → Nat → Option (List (List Nat))
  | 0, _ => some []
  | count + 1, offset => do
    let first ← row? b order widths offset
    let rest ← rows? b order widths count (offset + rowSize widths)
    some (first :: rest)

/-- The rows up to the first one that cannot be read. -/
def rowsUpTo (b : ByteArray) (order : Endian) (widths : List Nat) : Nat → Nat → List (List Nat)
  | 0, _ => []
  | count + 1, offset =>
    match row? b order widths offset with
    | none => []
    | some first => first :: rowsUpTo b order widths count (offset + rowSize widths)

/-- Whether there are `size` bytes from an offset on.  Where the sequence ends
there are none, and none are needed for an empty table. -/
def covers (b : ByteArray) (offset size : Nat) : Bool :=
  offset + size ≤ b.size

/-- The position of the first zero byte, or of the end. -/
def zeroFrom (b : ByteArray) : Nat → Nat → Nat
  | 0, i => i
  | fuel + 1, i =>
    match b[i]? with
    | none => i
    | some 0 => i
    | some _ => zeroFrom b fuel (i + 1)

/-- The bytes from an offset up to a zero byte or the end. -/
def untilZero (b : ByteArray) (offset : Nat) : ByteArray :=
  b.extract offset (zeroFrom b (b.size - offset) offset)

/-- The text from an offset up to a zero byte or the end, which is empty where the
sequence ends. -/
def text? (b : ByteArray) (offset : Nat) : Option String :=
  if offset ≤ b.size then String.fromUTF8? (untilZero b offset) else none

/-- The text in a field of fixed size, or the empty text if it is none. -/
def fieldText (b : ByteArray) (offset size : Nat) : String :=
  (text? (b.extract offset (offset + size)) 0).getD ""

/-- The least multiple of `unit` that is not below `n`. -/
def alignUp (n unit : Nat) : Nat :=
  (n + unit - 1) / unit * unit

def alignDown (n unit : Nat) : Nat :=
  n / unit * unit

end Bytes

end DebugCatalog.Image
