import DebugCatalog.Image.Digest
import DebugCatalog.Word

/-!
# Images

An image is a binary under analysis: its bytes, and what its headers say about
sections and symbols.  Bytes in no known format make a raw image without either.

`Section.contains` and `Image.sectionData` take offsets and sizes straight from
untrusted headers.  Both are defined for every 64-bit value.
-/

namespace DebugCatalog

inductive Image.Format where
  | elf
  | pe
  | machO
  | raw
  deriving DecidableEq, Repr

def Image.Format.name : Image.Format → String
  | .elf => "elf"
  | .pe => "pe"
  | .machO => "macho"
  | .raw => "raw"

/-- A section, at a virtual address and, if the file has its contents, at an
offset in it. -/
structure Section where
  name : String
  start : UInt64
  size : UInt64
  fileOffset : Option UInt64
  deriving DecidableEq

namespace Section

/-- The address behind the section, or the largest address if it is beyond it. -/
def stop (s : Section) : UInt64 :=
  Word.addSat s.start s.size

def contains (s : Section) (address : UInt64) : Bool :=
  s.start ≤ address && address < s.stop

end Section

inductive SymbolKind where
  | function
  | data
  deriving DecidableEq, Repr

structure Symbol where
  name : String
  address : UInt64
  size : Option UInt64
  kind : SymbolKind
  deriving DecidableEq

/-- What the headers of a file say. -/
structure Image.Headers where
  format : Image.Format
  arch : Option String
  is64Bit : Bool
  entryPoint : Option UInt64
  imageBase : UInt64
  sections : List Section
  symbols : List Symbol

/-- The headers of bytes in no known format. -/
def Image.Headers.raw : Image.Headers where
  format := .raw
  arch := none
  is64Bit := false
  entryPoint := none
  imageBase := 0
  sections := []
  symbols := []

structure Image extends Image.Headers where
  name : String
  /-- The path it was read from. -/
  path : Option String
  bytes : ByteArray

namespace Image

def size (v : Image) : Nat :=
  v.bytes.size

def isEmpty (v : Image) : Bool :=
  v.bytes.size == 0

def section? (v : Image) (name : String) : Option Section :=
  v.sections.find? fun s => s.name == name

def hasSection (v : Image) (name : String) : Bool :=
  (v.section? name).isSome

/-- The bytes behind a section, as far as the file has them.  There are none for
a section without contents, or with an offset at or behind the end of the file. -/
def sectionData (v : Image) (name : String) : Option ByteArray := do
  let s ← v.section? name
  let offset ← s.fileOffset
  if offset.toNat < v.bytes.size then
    some (v.bytes.extract offset.toNat (min (offset.toNat + s.size.toNat) v.bytes.size))
  else none

def functionSymbols (v : Image) : List Symbol :=
  v.symbols.filter fun s => s.kind == .function

def dataSymbols (v : Image) : List Symbol :=
  v.symbols.filter fun s => s.kind == .data

def symbolAt (v : Image) (address : UInt64) : Option Symbol :=
  v.symbols.find? fun s => s.address == address

def sha256 (v : Image) : String :=
  Digest.sha256 v.bytes

end Image

/-- An address as listings print it: hexadecimal, with at least eight digits. -/
def formatAddress (address : UInt64) : String :=
  String.ofList ('0' :: 'x' :: Text.hexPadded 8 address.toNat)

end DebugCatalog
