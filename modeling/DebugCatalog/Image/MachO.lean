import DebugCatalog.Image.Basic
import DebugCatalog.Image.Bytes

/-!
# Mach-O files

`MachO.parse` walks the load commands of a thin file and reads segments, symbols
and the entry point.  `MachO.File.headers` says what they mean for an image:
symbols lose the underscore in front of their name, and those in the text
section of the text segment are functions.
-/

namespace DebugCatalog.Image.MachO

/-- A section, with the segment it says it belongs to. -/
structure SectionHeader where
  name : String
  segment : String
  address : UInt64
  size : UInt64
  offset : Nat

/-- An entry of the symbol table. -/
structure Entry where
  name : String
  type : Nat
  /-- The number of its section, counted from one over all segments. -/
  ordinal : Nat
  value : UInt64

structure File where
  cpu : Nat
  is64Bit : Bool
  entry : UInt64
  sections : List SectionHeader
  symbols : List Entry

/-! ## From tables to headers -/

def cpuX86 : Nat := 7
def cpuX8664 : Nat := 0x01000007
def cpuArm : Nat := 12
def cpuArm64 : Nat := 0x0100000c
def cpuArm6432 : Nat := 0x0200000c
def cpuPowerPc : Nat := 18

def archOf (cpu : Nat) : Option String :=
  if cpu = cpuX86 then some "x86"
  else if cpu = cpuX8664 then some "x86_64"
  else if cpu = cpuArm then some "arm"
  else if cpu = cpuArm64 then some "arm64"
  else none

def sectionOf (h : SectionHeader) : Section :=
  { name := h.name
    start := h.address
    size := h.size
    fileOffset := if h.offset = 0 then none else some (UInt64.ofNat h.offset) }

/-- Symbols for a debugger. -/
def Entry.isDebug (e : Entry) : Bool :=
  e.type / 32 != 0

def Entry.isUndefined (e : Entry) : Bool :=
  e.ordinal == 0 && e.type / 2 % 8 == 0

/-- A name without the underscore that a compiler puts in front. -/
def plainName (name : String) : String :=
  match name.toList with
  | '_' :: rest => String.ofList rest
  | cs => String.ofList cs

/-- Whether the section with a number holds code. -/
def isText (sections : List SectionHeader) (ordinal : Nat) : Bool :=
  if ordinal = 0 then false
  else
    match sections[ordinal - 1]? with
    | none => false
    | some h => h.name == "__text" && h.segment == "__TEXT"

def Entry.symbol? (sections : List SectionHeader) (e : Entry) : Option Symbol :=
  let name := plainName e.name
  if e.isDebug || e.isUndefined || e.value == 0 || name == "" then none
  else some
    { name
      address := e.value
      size := none
      kind := if isText sections e.ordinal then .function else .data }

def File.headers (f : File) : Headers where
  format := .machO
  arch := archOf f.cpu
  is64Bit := f.is64Bit
  entryPoint := if f.entry = 0 then none else some f.entry
  imageBase := 0
  sections := f.sections.map sectionOf
  symbols := f.symbols.filterMap (Entry.symbol? f.sections)

/-! ## Load commands -/

structure Layout where
  order : Endian
  is64Bit : Bool

def Layout.word (l : Layout) : Nat :=
  if l.is64Bit then 8 else 4

/-- A load command: its kind, its size, and where it starts. -/
structure Command where
  kind : Nat
  size : Nat
  start : Nat

def kindSegment : Nat := 0x1
def kindSymbols : Nat := 0x2
def kindThread : Nat := 0x4
def kindUnixThread : Nat := 0x5
def kindSegment64 : Nat := 0x19
def kindRunPath : Nat := 0x8000001c
def kindMain : Nat := 0x80000028

/-- Commands that name a library. -/
def libraryKinds : List Nat :=
  [0xc, 0xd, 0x80000018, 0x8000001f, 0x20, 0x80000023]

/-- How many bytes the fixed part of a command takes. -/
def fixedSize (kind : Nat) : Nat :=
  if kind ∈ libraryKinds then 24
  else
    match kind with
    | 0x1 => 56
    | 0x2 => 24
    | 0x3 => 16
    | 0x6 => 20
    | 0x7 => 20
    | 0x9 => 16
    | 0xb => 80
    | 0xe => 12
    | 0xf => 12
    | 0x10 => 20
    | 0x11 => 40
    | 0x12 => 12
    | 0x13 => 12
    | 0x14 => 12
    | 0x15 => 12
    | 0x16 => 16
    | 0x17 => 12
    | 0x19 => 72
    | 0x1a => 72
    | 0x1b => 24
    | 0x8000001c => 12
    | 0x1d => 16
    | 0x1e => 16
    | 0x21 => 20
    | 0x22 => 48
    | 0x80000022 => 48
    | 0x24 => 16
    | 0x25 => 16
    | 0x26 => 16
    | 0x27 => 12
    | 0x80000028 => 24
    | 0x29 => 16
    | 0x2a => 16
    | 0x2b => 16
    | 0x2c => 24
    | 0x2d => 16
    | 0x2e => 16
    | 0x2f => 16
    | 0x30 => 16
    | 0x31 => 40
    | 0x32 => 24
    | 0x80000033 => 16
    | 0x80000034 => 16
    | 0x80000035 => 32
    | _ => 8

/-- The state of a thread: as many words as the command says, at most seventy.
They may go beyond the size of the command, but not beyond the file. -/
def threadState? (b : ByteArray) (l : Layout) (c : Command) : Option (List Nat) := do
  let count ← Bytes.number? b l.order 4 (c.start + 12)
  if count ≤ 70 then
    Bytes.row? b l.order (List.replicate count 4) (c.start + 16)
  else none

def command? (b : ByteArray) (l : Layout) (start : Nat) : Option Command := do
  let kind ← Bytes.number? b l.order 4 start
  let size ← Bytes.number? b l.order 4 (start + 4)
  let c : Command := { kind, size, start }
  if b.size < start + size ∨ b.size < start + fixedSize kind then none
  else if kind = kindThread ∨ kind = kindUnixThread then
    let _ ← threadState? b l c
    some c
  else some c

/-- The commands, each behind the one before. -/
def commands? (b : ByteArray) (l : Layout) : Nat → Nat → Option (List Command)
  | 0, _ => some []
  | count + 1, start => do
    let c ← command? b l start
    let rest ← commands? b l count (start + c.size)
    some (c :: rest)

structure Segment where
  name : ByteArray
  address : UInt64
  offset : UInt64
  sections : List SectionHeader

/-- The fixed-size part of a segment command before its sections. -/
def segmentSize (l : Layout) : Nat :=
  if l.is64Bit then 72 else 56

def sectionWidths (l : Layout) : List Nat :=
  if l.is64Bit then [8, 8, 4, 4, 4, 4, 4, 4, 4, 4] else [4, 4, 4, 4, 4, 4, 4, 4, 4]

/-- The sections behind a segment command, up to the first unreadable one. -/
def sectionsFrom (b : ByteArray) (l : Layout) : Nat → Nat → List SectionHeader
  | 0, _ => []
  | count + 1, offset =>
    match Bytes.row? b l.order (sectionWidths l) (offset + 32) with
    | some (address :: size :: fileOffset :: _) =>
      { name := Bytes.fieldText b offset 16
        segment := Bytes.fieldText b (offset + 16) 16
        address := UInt64.ofNat address
        size := UInt64.ofNat size
        offset := fileOffset } ::
        sectionsFrom b l count (offset + 32 + Bytes.rowSize (sectionWidths l))
    | _ => []

/-- A segment; its contents must lie in the file. -/
def segment? (b : ByteArray) (l : Layout) (c : Command) : Option Segment := do
  let w := if c.kind = kindSegment64 then 8 else 4
  match ← Bytes.row? b l.order [w, w, w, w, 4, 4, 4, 4] (c.start + 24) with
  | [address, _, offset, size, _, _, count, _] =>
    if size != 0 && !Bytes.covers b offset size then none
    else
      some
        { name := b.extract (c.start + 8) (c.start + 24)
          address := UInt64.ofNat address
          offset := UInt64.ofNat offset
          sections := sectionsFrom b l count (c.start + segmentSize l) }
  | _ => none

/-- The entries of a symbol table whose names can be read. -/
def symbolsFrom (b : ByteArray) (l : Layout) (names : Nat) : Nat → Nat → List Entry
  | 0, _ => []
  | count + 1, offset =>
    match Bytes.row? b l.order [4, 1, 1, 2, l.word] offset with
    | some [nameOffset, type, ordinal, _, value] =>
      let rest := symbolsFrom b l names count (offset + 8 + l.word)
      match Bytes.text? b (names + nameOffset) with
      | some name => ⟨name, type, ordinal, UInt64.ofNat value⟩ :: rest
      | none => rest
    | _ => []

def symbolTable? (b : ByteArray) (l : Layout) (c : Command) : Option (List Entry) := do
  match ← Bytes.row? b l.order [4, 4, 4] (c.start + 8) with
  | [offset, count, names] =>
    if names < offset ∨ b.size < offset then none
    else some (symbolsFrom b l names count offset)
  | _ => none

/-- Where a thread continues, by the kind of CPU. -/
def instructionPointer? (cpu : Nat) (state : List Nat) : Option UInt64 :=
  let word (i : Nat) : Nat := state.getD i 0
  let wide (i : Nat) : UInt64 := UInt64.ofNat (word i + word (i + 1) * 0x100000000)
  if cpu = cpuX86 then some (UInt64.ofNat (word 10))
  else if cpu = cpuX8664 then some (wide 32)
  else if cpu = cpuArm then some (UInt64.ofNat (word 15))
  else if cpu = cpuArm64 ∨ cpu = cpuArm6432 then some (wide 64)
  else if cpu = cpuPowerPc then some (UInt64.ofNat (word 0))
  else none

/-- What has been read of a file. -/
structure Draft where
  segments : List Segment := []
  symbols : List Entry := []
  main : Option UInt64 := none
  thread : Option UInt64 := none

/-- Takes in a command.  The last symbol table counts, and the first entry point
of each kind. -/
def Draft.add? (b : ByteArray) (l : Layout) (cpu : Nat) (d : Draft) (c : Command) :
    Option Draft := do
  if c.kind = kindSegment ∨ c.kind = kindSegment64 then
    let s ← segment? b l c
    some { d with segments := d.segments ++ [s] }
  else if c.kind = kindSymbols then
    let symbols ← symbolTable? b l c
    some { d with symbols }
  else if c.kind ∈ libraryKinds ∨ c.kind = kindRunPath then
    let offset ← Bytes.number? b l.order 4 (c.start + 8)
    let _ ← Bytes.text? b (c.start + offset)
    some d
  else if c.kind = kindMain then
    let offset ← Bytes.number? b l.order 8 (c.start + 8)
    some { d with main := some (d.main.getD (UInt64.ofNat offset)) }
  else if c.kind = kindUnixThread then
    match d.thread with
    | some _ => some d
    | none =>
      let pointer ← instructionPointer? cpu (← threadState? b l c)
      some { d with thread := some pointer }
  else some d

/-- The name of the segment whose address a main entry point counts from. -/
def textSegmentName : ByteArray := "__TEXT\x00".toUTF8

/-- The address at which the program starts: in its text segment, or where its thread does. -/
def Draft.entryPoint? (d : Draft) : Option UInt64 :=
  match d.main, d.thread with
  | some offset, _ => do
    let s ← d.segments.find? fun s => s.name.extract 0 7 == textSegmentName
    some (s.address - s.offset + offset)
  | none, some pointer => some pointer
  | none, none => some 0

/-- The four kinds of file, by their first four bytes. -/
def layoutOf? (magic : Nat) : Option Layout :=
  match magic with
  | 0xfeedface => some ⟨.big, false⟩
  | 0xfeedfacf => some ⟨.big, true⟩
  | 0xcefaedfe => some ⟨.little, false⟩
  | 0xcffaedfe => some ⟨.little, true⟩
  | _ => none

/-- No file is shorter than a header with wide addresses, whatever its own width. -/
def leastSize : Nat := 32

def parse (b : ByteArray) : Option File := do
  let l ← layoutOf? (← Bytes.number? b .big 4 0)
  let header ← Bytes.row? b l.order [4, 4, 4, 4, 4, 4, 4] 0
  let start := if l.is64Bit then 32 else 28
  match header with
  | [_, cpu, _, _, count, size, _] =>
    if b.size < leastSize ∨ size / 8 < count ∨ b.size < size then none
    else
      let commands ← commands? b l count start
      let draft ← commands.foldlM (Draft.add? b l cpu) {}
      let entry ← draft.entryPoint?
      some
        { cpu
          is64Bit := l.is64Bit
          entry
          sections := draft.segments.flatMap Segment.sections
          symbols := draft.symbols }
  | _ => none

end DebugCatalog.Image.MachO
