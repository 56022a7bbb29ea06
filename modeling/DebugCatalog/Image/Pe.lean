import DebugCatalog.Image.Basic
import DebugCatalog.Image.Bytes

/-!
# PE files

`Pe.parse` reads the section table and the exports of a file and checks that the
directories of imports, debug data, exceptions and certificates can be read.
`Pe.File.headers` says what they mean for an image: addresses are relative to
the image base and wrap around, and an export is a function if it lies in a
section that may be executed.
-/

namespace DebugCatalog.Image.Pe

/-- An entry of the section table.  All numbers have 32 bits. -/
structure SectionHeader where
  name : String
  virtualSize : Nat
  virtualAddress : Nat
  rawSize : Nat
  rawOffset : Nat
  flags : Nat

/-- An export that is no forwarder: its address relative to the image base, and
its name if that can be read. -/
structure Export where
  name : Option String
  address : Nat

structure File where
  machine : Nat
  is64Bit : Bool
  entry : Nat
  imageBase : UInt64
  sections : List SectionHeader
  exports : List Export

/-! ## From tables to headers -/

def archOf (machine : Nat) : Option String :=
  match machine with
  | 0x14c => some "x86"
  | 0x8664 => some "x86_64"
  | 0x1c0 => some "arm"
  | 0xaa64 => some "arm64"
  | _ => none

def File.address (f : File) (relative : Nat) : UInt64 :=
  f.imageBase + UInt64.ofNat relative

def SectionHeader.isExecutable (h : SectionHeader) : Bool :=
  h.flags >>> 29 % 2 == 1

def File.sectionOf (f : File) (h : SectionHeader) : Section :=
  { name := h.name
    start := f.address h.virtualAddress
    size := UInt64.ofNat (if h.virtualSize = 0 then h.rawSize else h.virtualSize)
    fileOffset := if h.rawSize = 0 then none else some (UInt64.ofNat h.rawOffset) }

/-- The addresses of the executable sections: the first of each, and the one
behind it, or the largest address if it is beyond that. -/
def File.codeRanges (f : File) : List (UInt64 × UInt64) :=
  (f.sections.filter SectionHeader.isExecutable).map fun h =>
    let start := f.address h.virtualAddress
    (start, Word.addSat start (UInt64.ofNat (max h.virtualSize h.rawSize)))

def File.kindAt (f : File) (address : UInt64) : SymbolKind :=
  if f.codeRanges.any fun (first, stop) => first ≤ address && address < stop then .function
  else .data

def File.symbol? (f : File) (e : Export) : Option Symbol := do
  let name ← e.name
  if e.address = 0 ∨ name = "" then none
  else
    let address := f.address e.address
    some { name, address, size := none, kind := f.kindAt address }

def File.headers (f : File) : Headers where
  format := .pe
  arch := archOf f.machine
  is64Bit := f.is64Bit
  entryPoint := if f.entry = 0 then none else some (f.address f.entry)
  imageBase := f.imageBase
  sections := f.sections.map f.sectionOf
  symbols := f.exports.filterMap f.symbol?

/-! ## The section table -/

def digit64? (c : Char) : Option Nat :=
  if 'A' ≤ c ∧ c ≤ 'Z' then some (c.toNat - 'A'.toNat)
  else if 'a' ≤ c ∧ c ≤ 'z' then some (c.toNat - 'a'.toNat + 26)
  else if '0' ≤ c ∧ c ≤ '9' then some (c.toNat - '0'.toNat + 52)
  else if c = '+' then some 62
  else if c = '/' then some 63
  else none

def decimal? (cs : List Char) : Option Nat :=
  let digits := match cs with
    | '+' :: rest => rest
    | cs => cs
  if digits.isEmpty then none
  else digits.foldlM (fun n c =>
    if '0' ≤ c ∧ c ≤ '9' then some (n * 10 + (c.toNat - '0'.toNat)) else none) 0

/-- A name that stands in the string table: `/` and its offset in decimal, or
`//` and its offset in base 64. -/
def nameOffset? (name : ByteArray) : Option (Option Nat) := do
  if (name[0]?.getD 0).toNat != '/'.toNat then some none
  else if (name[1]?.getD 0).toNat = '/'.toNat then
    let cs := (← Bytes.text? (name.extract 2 8) 0).toList
    let n ← cs.foldlM (fun n c => (digit64? c).map (n * 64 + ·)) 0
    some (some n)
  else
    let cs := (← Bytes.text? (name.extract 1 8) 0).toList
    some (some (← decimal? cs))

def section? (b : ByteArray) (strings offset : Nat) : Option SectionHeader := do
  let name := b.extract offset (offset + 8)
  match ← Bytes.row? b .little [4, 4, 4, 4, 4, 4, 2, 2, 4] (offset + 8) with
  | [virtualSize, virtualAddress, rawSize, rawOffset, _, _, _, _, flags] =>
    let name ← match ← nameOffset? name with
      | some n => Bytes.text? b (strings + n)
      | none => some (Bytes.fieldText name 0 8)
    some { name, virtualSize, virtualAddress, rawSize, rawOffset, flags }
  | _ => none

def sections? (b : ByteArray) (strings : Nat) : Nat → Nat → Option (List SectionHeader)
  | 0, _ => some []
  | count + 1, offset => do
    let first ← section? b strings offset
    let rest ← sections? b strings count (offset + 40)
    some (first :: rest)

/-! ## Where an address is in the file -/

/-- How addresses map to the file: the sections and the file alignment. -/
structure Mapping where
  sections : List SectionHeader
  alignment : Nat

/-- How many bytes of a section the loader reads. -/
def SectionHeader.readSize (h : SectionHeader) (alignment : Nat) : Nat :=
  let read := min
    (Bytes.alignUp (h.rawOffset + h.rawSize) alignment - Bytes.alignDown h.rawOffset 0x200)
    (Bytes.alignUp h.rawSize 0x1000)
  if h.virtualSize = 0 then read else min read (Bytes.alignUp h.virtualSize 0x1000)

def isPowerOfTwo (n : Nat) : Bool :=
  n != 0 && n &&& (n - 1) == 0

def Mapping.offset? (m : Mapping) (address : Nat) : Option Nat := do
  if isPowerOfTwo m.alignment then
    let h ← m.sections.find? fun h =>
      h.virtualAddress ≤ address && address < h.virtualAddress + h.readSize m.alignment
    some (address - h.virtualAddress + Bytes.alignDown h.rawOffset 0x200)
  else none

/-- A data directory: address and size. -/
structure Directory where
  address : Nat
  size : Nat

/-! ## Exports -/

/-- The column of a table at an address, up to the first number that cannot be
read. -/
def column (b : ByteArray) (m : Mapping) (width count address : Nat) : List Nat :=
  match m.offset? address with
  | none => []
  | some offset => (Bytes.rowsUpTo b .little [width] count offset).flatten

/-- The exports, one for each name.  An address inside the directory itself is a
forwarder, which is no export of this file. -/
def exports (b : ByteArray) (m : Mapping) (d : Directory) : List Export :=
  let read : Option (List Export) := do
    let offset ← m.offset? d.address
    match ← Bytes.row? b .little [4, 4, 2, 2, 4, 4, 4, 4, 4, 4, 4] offset with
    | [_, _, _, _, _, _, addressCount, nameCount, addressTable, nameTable, ordinalTable] =>
      if b.size < nameCount ∨ b.size < addressCount then none
      else
        let names := column b m 4 nameCount nameTable
        let ordinals := column b m 2 nameCount ordinalTable
        let addresses := column b m 4 addressCount addressTable
        some ((names.zip ordinals).filterMap fun (nameAddress, ordinal) => do
          let address ← addresses[ordinal]?
          if d.address ≤ address ∧ address < d.address + d.size then none
          else
            let name := (m.offset? nameAddress).bind (Bytes.text? b)
            some { name, address })
    | _ => none
  read.getD []

/-! ## Directories that must be readable -/

/-- The import lookup table at an offset: each entry is an ordinal, an address
without contents, or the address of a hint and a name. -/
def lookupReadable (b : ByteArray) (m : Mapping) (width : Nat) : Nat → Nat → Bool
  | 0, _ => false
  | fuel + 1, offset =>
    match Bytes.number? b .little width offset with
    | none => false
    | some 0 => true
    | some entry =>
      let isOrdinal := entry >>> (8 * width - 1) == 1
      let named :=
        match m.offset? (entry % 0x80000000) with
        | none => true
        | some place =>
          (Bytes.number? b .little 2 place).isSome && (Bytes.text? b (place + 2)).isSome
      (isOrdinal || named) && lookupReadable b m width fuel (offset + width)

/-- A table of numbers that ends with zero. -/
def tableReadable (b : ByteArray) (width : Nat) : Nat → Nat → Bool
  | 0, _ => false
  | fuel + 1, offset =>
    match Bytes.number? b .little width offset with
    | none => false
    | some 0 => true
    | some _ => tableReadable b width fuel (offset + width)

/-- The import directory from an offset on: an entry for each library, up to one
that is all zero. -/
def importsReadable (b : ByteArray) (m : Mapping) (width : Nat) : Nat → Nat → Bool
  | 0, _ => false
  | fuel + 1, offset =>
    match Bytes.row? b .little [4, 4, 4, 4, 4] offset with
    | some [lookup, time, forwarders, name, addresses] =>
      if lookup = 0 ∧ time = 0 ∧ forwarders = 0 ∧ name = 0 ∧ addresses = 0 then true
      else
        let named := ((m.offset? name).bind (Bytes.text? b)).isSome
        let listed :=
          match m.offset? lookup, m.offset? addresses with
          | some place, _ => lookupReadable b m width (b.size + 1) place
          | none, some place => lookupReadable b m width (b.size + 1) place
          | none, none => true
        let bound :=
          match m.offset? addresses with
          | none => false
          | some place => tableReadable b width (b.size + 1) place
        named && listed && bound && importsReadable b m width fuel (offset + 20)
    | _ => false

/-- The first debug directory entry; the record of a program database must be
complete. -/
def debugReadable (b : ByteArray) (m : Mapping) (d : Directory) : Bool :=
  let read : Option Bool := do
    let offset ← m.offset? d.address
    match ← Bytes.row? b .little [4, 4, 2, 2, 4, 4, 4, 4] offset with
    | [_, _, _, _, kind, size, _, place] =>
      if kind != 2 then some true
      else if size < 24 then some false
      else
        let signature ← Bytes.number? b .little 4 place
        if signature != 0x53445352 then some true
        else some (Bytes.covers b (place + 4) 16 && Bytes.covers b (place + 20) 4 &&
          place + size ≤ b.size)
    | _ => none
  read.getD false

/-- The exception directory holds whole entries of twelve bytes at a multiple of
four. -/
def exceptionsReadable (m : Mapping) (d : Directory) : Bool :=
  d.size % 12 == 0 && ((m.offset? d.address).map fun offset => offset % 4 == 0).getD false

/-- The certificates from an offset up to the end of their table, which is a
place in the file and no address. -/
def certificatesReadable (b : ByteArray) (stop : Nat) : Nat → Nat → Bool
  | 0, _ => false
  | fuel + 1, offset =>
    if stop ≤ offset then true
    else
      match Bytes.row? b .little [4, 2, 2] offset with
      | some [length, revision, kind] =>
        let behind := offset + 8 + (length - 8)
        behind ≤ b.size && (revision == 0x100 || revision == 0x200) && 1 ≤ kind && kind ≤ 4 &&
          certificatesReadable b stop fuel (Bytes.alignUp behind 8)
      | _ => false

/-! ## Files -/

/-- The optional header as far as it is used. -/
structure Optional where
  is64Bit : Bool
  entry : Nat
  imageBase : Nat
  alignment : Nat
  directories : List (Option Directory)

def directoryOf (row : List Nat) : Option Directory :=
  match row with
  | [0, 0] => none
  | [address, size] => some ⟨address, size⟩
  | _ => none

def optional? (b : ByteArray) (offset : Nat) : Option Optional := do
  let magic ← Bytes.number? b .little 2 offset
  let is64Bit ← match magic with
    | 0x10b => some false
    | 0x20b => some true
    | _ => none
  let w := if is64Bit then 8 else 4
  let standard := if is64Bit then 24 else 28
  let entry ← Bytes.number? b .little 4 (offset + 16)
  let windows ← Bytes.row? b .little
    [w, 4, 4, 2, 2, 2, 2, 2, 2, 4, 4, 4, 4, 2, 2, w, w, w, w, 4, 4] (offset + standard)
  let imageBase := windows.getD 0 0
  let alignment := windows.getD 2 0
  let count := windows.getD 20 0
  if 16 < count then none
  else
    let rows ← Bytes.rows? b .little [4, 4] count (offset + standard + (if is64Bit then 88 else 68))
    some { is64Bit, entry, imageBase, alignment, directories := rows.map directoryOf }

def Optional.directory? (o : Optional) (index : Nat) : Option Directory :=
  (o.directories[index]?).join

/-- Whether every directory that has to be readable is. -/
def directoriesReadable (b : ByteArray) (m : Mapping) (machine : Nat) (o : Optional) : Bool :=
  let check (index : Nat) (readable : Directory → Bool) : Bool :=
    ((o.directory? index).map readable).getD true
  let imports (d : Directory) : Bool :=
    match m.offset? d.address with
    | none => false
    | some offset => importsReadable b m (if o.is64Bit then 8 else 4) (b.size + 1) offset
  let certificates (d : Directory) : Bool :=
    d.address + d.size ≤ b.size &&
      certificatesReadable b (d.address + d.size) (b.size + 1) d.address
  check 1 imports && check 6 (debugReadable b m) &&
    (machine != 0x8664 || check 3 (exceptionsReadable m)) && check 4 certificates

/-- The header for the older system and the program behind it, which are there
whether or not another header overlaps them. -/
def leastSize : Nat := 0x80

def parse (b : ByteArray) : Option File := do
  let start ← Bytes.number? b .little 4 0x3c
  let signature ← Bytes.number? b .little 4 start
  if signature != 0x4550 ∨ b.size < leastSize then none
  else
    match ← Bytes.row? b .little [2, 2, 4, 4, 4, 2, 2] (start + 4) with
    | [machine, sectionCount, _, symbolTable, symbolCount, optionalSize, _] =>
      let behind := start + 24
      let optional ← if optionalSize = 0 then some none else (optional? b behind).map some
      if b.size / 40 < sectionCount then none
      else
        let sections ← sections? b (symbolTable + 18 * symbolCount) sectionCount
          (behind + optionalSize)
        match optional with
        | none =>
          some { machine, is64Bit := false, entry := 0, imageBase := 0, sections, exports := [] }
        | some o =>
          let m : Mapping := { sections, alignment := o.alignment }
          if directoriesReadable b m machine o then
            some
              { machine
                is64Bit := o.is64Bit
                entry := o.entry
                imageBase := UInt64.ofNat o.imageBase
                sections
                exports := ((o.directory? 0).map (exports b m)).getD [] }
          else none
    | _ => none

end DebugCatalog.Image.Pe
