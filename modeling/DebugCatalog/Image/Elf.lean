import DebugCatalog.Image.Basic
import DebugCatalog.Image.Bytes

/-!
# ELF files

`Elf.parse` reads the tables of a file: section headers with their names, and
the static and the dynamic symbol table.  A file with an unreadable table is not
an ELF file at all.  `Elf.File.headers` says what the tables mean for an image:
symbols without a section or a name are left out, and of symbols that agree in
name and address only the first is kept.
-/

namespace DebugCatalog.Image.Elf

/-- A section header. -/
structure SectionHeader where
  nameOffset : Nat
  type : Nat
  address : Nat
  offset : Nat
  size : Nat
  link : Nat
  info : Nat
  entrySize : Nat

/-- A program header. -/
structure Segment where
  type : Nat
  offset : Nat
  address : Nat
  fileSize : Nat
  memorySize : Nat

/-- An entry of a symbol table, with its name looked up. -/
structure Entry where
  name : String
  info : Nat
  sectionIndex : Nat
  value : UInt64
  size : UInt64

/-- The tables of a file. -/
structure File where
  machine : Nat
  is64Bit : Bool
  entry : UInt64
  /-- Section headers with their names. -/
  sections : List (String × SectionHeader)
  staticSymbols : List Entry
  dynamicSymbols : List Entry

/-! ## Section and symbol types -/

def typeNull : Nat := 0
def typeSymbols : Nat := 2
def typeRela : Nat := 4
def typeNoBits : Nat := 8
def typeRel : Nat := 9
def typeVersionDefinitions : Nat := 0x6ffffffd
def typeVersionNeeds : Nat := 0x6ffffffe
def typeVersions : Nat := 0x6fffffff

def segmentLoad : Nat := 1
def segmentDynamic : Nat := 2

/-- The index of a symbol that is defined elsewhere. -/
def undefinedIndex : Nat := 0

/-- An index that does not fit and is found in the first section header. -/
def extendedIndex : Nat := 0xffff

/-- What kind of symbol an entry describes, if it is a function or an object. -/
def Entry.kind? (e : Entry) : Option SymbolKind :=
  if e.info % 16 = 2 then some .function
  else if e.info % 16 = 1 then some .data
  else none

/-! ## From tables to headers -/

def archOf (machine : Nat) : Option String :=
  match machine with
  | 62 => some "x86_64"
  | 3 => some "x86"
  | 183 => some "arm64"
  | 40 => some "arm"
  | 243 => some "riscv"
  | 21 => some "ppc64"
  | 8 => some "mips"
  | _ => none

/-- The symbol an entry describes.  It needs a section, a kind and a name. -/
def Entry.symbol? (e : Entry) : Option Symbol :=
  if e.sectionIndex = undefinedIndex ∨ e.name = "" then none
  else e.kind?.map fun kind =>
    { name := e.name
      address := e.value
      size := if e.size = 0 then none else some e.size
      kind }

/-- The symbols of a table in order, each name at each address once.  `seen`
holds those that came before. -/
def distinctSymbols (seen : List (String × UInt64)) : List Entry → List Symbol
  | [] => []
  | e :: es =>
    match e.symbol? with
    | none => distinctSymbols seen es
    | some s =>
      if (s.name, s.address) ∈ seen then distinctSymbols seen es
      else s :: distinctSymbols ((s.name, s.address) :: seen) es

def sectionOf (named : String × SectionHeader) : Section :=
  { name := named.1
    start := UInt64.ofNat named.2.address
    size := UInt64.ofNat named.2.size
    fileOffset :=
      if named.2.type = typeNoBits then none else some (UInt64.ofNat named.2.offset) }

def File.headers (f : File) : Headers where
  format := .elf
  arch := archOf f.machine
  is64Bit := f.is64Bit
  entryPoint := if f.entry = 0 then none else some f.entry
  imageBase := 0
  sections := (f.sections.filter fun s => s.2.type != typeNull).map sectionOf
  symbols := distinctSymbols [] (f.staticSymbols ++ f.dynamicSymbols)

/-! ## Reading the tables -/

/-- How a file writes its numbers. -/
structure Layout where
  order : Endian
  is64Bit : Bool

/-- The width of an address. -/
def Layout.word (l : Layout) : Nat :=
  if l.is64Bit then 8 else 4

/-- A table of strings: its bytes, all of which are UTF-8. -/
structure Strings where
  bytes : ByteArray

def Strings.empty : Strings := ⟨ByteArray.empty⟩

/-- Whether every string of a table is UTF-8. -/
def allText (b : ByteArray) : Bool :=
  (String.fromUTF8? b).isSome

def strings? (b : ByteArray) (offset size : Nat) : Option Strings :=
  if offset + size ≤ b.size then
    let table := b.extract offset (offset + size)
    if allText table then some ⟨table⟩ else none
  else none

/-- The string at an offset, which may lie inside one; the empty string if there
is none. -/
def Strings.at (s : Strings) (offset : Nat) : String :=
  (Bytes.text? s.bytes offset).getD ""

/-- Whether the contents of a section lie inside the file and the address space. -/
def SectionHeader.fits (h : SectionHeader) (fileSize : Nat) : Bool :=
  h.type == typeNoBits || h.size == 0 ||
    (h.offset + h.size ≤ fileSize && h.address + h.size < Word.size)

/-- The string table in a section. -/
def stringSection? (b : ByteArray) (sections : List SectionHeader) (index : Nat) :
    Option Strings :=
  let lookup (i : Nat) : Option Strings :=
    match sections[i]? with
    | none => some .empty
    | some h => if h.fits b.size then strings? b h.offset h.size else none
  if index = extendedIndex then
    match sections.head? with
    | none => some .empty
    | some h => lookup h.link
  else lookup index

def segment? (l : Layout) (row : List Nat) : Option Segment :=
  match l.is64Bit, row with
  | true, [type, _, offset, address, _, fileSize, memorySize, _] =>
    some ⟨type, offset, address, fileSize, memorySize⟩
  | false, [type, offset, address, _, fileSize, memorySize, _, _] =>
    some ⟨type, offset, address, fileSize, memorySize⟩
  | _, _ => none

def segmentWidths (l : Layout) : List Nat :=
  if l.is64Bit then [4, 4, 8, 8, 8, 8, 8, 8] else [4, 4, 4, 4, 4, 4, 4, 4]

def segments? (b : ByteArray) (l : Layout) (offset count : Nat) : Option (List Segment) := do
  let widths := segmentWidths l
  if b.size / Bytes.rowSize widths < count then none
  else
    let rows ← Bytes.rows? b l.order widths count offset
    rows.mapM (segment? l)

def sectionWidths (l : Layout) : List Nat :=
  [4, 4, l.word, l.word, l.word, l.word, 4, 4, l.word, l.word]

def sectionHeader? (row : List Nat) : Option SectionHeader :=
  match row with
  | [name, type, _, address, offset, size, link, info, _, entrySize] =>
    some ⟨name, type, address, offset, size, link, info, entrySize⟩
  | _ => none

/-- The section headers.  A count of zero is found in the first of them. -/
def sections? (b : ByteArray) (l : Layout) (offset count : Nat) :
    Option (List SectionHeader) := do
  if offset = 0 then some []
  else
    let widths := sectionWidths l
    let first ← sectionHeader? (← Bytes.row? b l.order widths offset)
    let count := if count = 0 then first.size else count
    if b.size / Bytes.rowSize widths < count then none
    else
      let rest ← Bytes.rows? b l.order widths (count - 1) (offset + Bytes.rowSize widths)
      some (first :: (← rest.mapM sectionHeader?))

def symbolWidths (l : Layout) : List Nat :=
  if l.is64Bit then [4, 1, 1, 2, 8, 8] else [4, 4, 4, 1, 1, 2]

def entryOfRow? (l : Layout) (names : Strings) (row : List Nat) : Option Entry :=
  match l.is64Bit, row with
  | true, [name, info, _, index, value, size] =>
    some ⟨names.at name, info, index, UInt64.ofNat value, UInt64.ofNat size⟩
  | false, [name, value, size, info, _, index] =>
    some ⟨names.at name, info, index, UInt64.ofNat value, UInt64.ofNat size⟩
  | _, _ => none

/-- The entries of a symbol table, which must lie in the file. -/
def symbols? (b : ByteArray) (l : Layout) (names : Strings) (offset count : Nat) :
    Option (List Entry) := do
  let widths := symbolWidths l
  if Bytes.covers b offset (count * Bytes.rowSize widths) then
    let rows ← Bytes.rows? b l.order widths count offset
    rows.mapM (entryOfRow? l names)
  else none

/-- The last section with static symbols. -/
def staticSymbols? (b : ByteArray) (l : Layout) (sections : List SectionHeader) :
    Option (List Entry) := do
  match sections.reverse.find? fun h => h.type == typeSymbols with
  | none => some []
  | some h =>
    let count := if h.entrySize = 0 then 0 else h.size / h.entrySize
    let names ← stringSection? b sections h.link
    symbols? b l names h.offset count

/-! ## Dynamic symbols -/

/-- Tags of the dynamic section. -/
def tagEnd : Nat := 0
def tagPltRelSize : Nat := 2
def tagHash : Nat := 4
def tagStrings : Nat := 5
def tagSymbols : Nat := 6
def tagRela : Nat := 7
def tagRelaSize : Nat := 8
def tagStringsSize : Nat := 10
def tagRel : Nat := 17
def tagRelSize : Nat := 18
def tagPltRelKind : Nat := 20
def tagJumpRel : Nat := 23
def tagGnuHash : Nat := 0x6ffffef5

/-- The tags and values of the dynamic section, up to its end mark. -/
def dynamicEntries (b : ByteArray) (l : Layout) : Nat → Nat → List (Nat × Nat)
  | 0, _ => []
  | count + 1, offset =>
    match Bytes.row? b l.order [l.word, l.word] offset with
    | some [tag, value] =>
      if tag = tagEnd then [] else (tag, value) :: dynamicEntries b l count (offset + 2 * l.word)
    | _ => []

/-- Where the file has the contents of an address. -/
def fileOffset? (segments : List Segment) (address : Nat) : Option Nat := do
  let s ← segments.find? fun s =>
    s.type == segmentLoad && s.address ≤ address && address - s.address < s.memorySize
  let offset := s.offset + (address - s.address)
  if offset < Word.size then some offset else none

/-- The highest symbol index among relocations, or zero.  The table must lie in
the file. -/
def highestSymbol? (b : ByteArray) (l : Layout) (withAddend : Bool) (offset size : Nat) :
    Option Nat := do
  let width := (if withAddend then 3 else 2) * l.word
  if size = 0 then some 0
  else if Bytes.covers b offset size then
    let infos := (List.range (size / width)).map fun i =>
      (Bytes.number? b l.order l.word (offset + i * width + l.word)).getD 0
    some (infos.foldl (fun n info => max n (if l.is64Bit then info >>> 32 else info >>> 8)) 0)
  else none

/-- Follows a chain of hashes to its end, which has its lowest bit set. -/
def chainEnd? (b : ByteArray) (l : Layout) : Nat → Nat → Nat → Option Nat
  | 0, _, _ => none
  | fuel + 1, index, offset => do
    let hash ← Bytes.number? b l.order 4 offset
    if hash % 2 = 1 then some (index + 1) else chainEnd? b l fuel (index + 1) (offset + 4)

/-- The number of symbols according to a hash table with a Bloom filter. -/
def bloomHashCount? (b : ByteArray) (l : Layout) (offset : Nat) : Option Nat := do
  let buckets ← Bytes.number? b l.order 4 offset
  let minChain ← Bytes.number? b l.order 4 (offset + 4)
  let bloom ← Bytes.number? b l.order 4 (offset + 8)
  if buckets = 0 ∨ minChain = 0 ∨ bloom = 0 then none
  else
    let start := offset + 16 + bloom * l.word
    if Bytes.covers b start (buckets * 4) then
      let chains ← (List.range buckets).mapM fun i => Bytes.number? b l.order 4 (start + i * 4)
      let last := chains.foldl max 0
      if last < minChain then some 0
      else chainEnd? b l (b.size + 1) last (start + buckets * 4 + (last - minChain) * 4)
    else none

/-- The number of symbols according to a plain hash table.  On two machines its
entries are as wide as an address. -/
def hashCount? (b : ByteArray) (l : Layout) (machine offset : Nat) : Option Nat :=
  let width := if l.is64Bit && (machine == 22 || machine == 41) then 8 else 4
  Bytes.number? b l.order width (offset + 4)

def dynamicSymbols? (b : ByteArray) (l : Layout) (machine : Nat) (segments : List Segment) :
    Option (List Entry) := do
  match segments.find? fun s => s.type == segmentDynamic with
  | none => some []
  | some s =>
    if s.fileSize != 0 && !Bytes.covers b s.offset s.fileSize then none
    else
      let entries := dynamicEntries b l (s.fileSize / (2 * l.word)) s.offset
      let value (tag : Nat) : Nat := ((entries.reverse.lookup tag).getD 0)
      let place? (tag : Nat) : Option Nat :=
        (entries.reverse.lookup tag).bind (fileOffset? segments)
      let place (tag : Nat) : Nat := (place? tag).getD 0
      let names ← strings? b (place tagStrings) (value tagStringsSize)
      let rela ← highestSymbol? b l true (place tagRela) (value tagRelaSize)
      let rel ← highestSymbol? b l false (place tagRel) (value tagRelSize)
      let plt ← highestSymbol? b l (value tagPltRelKind == tagRela) (place tagJumpRel)
        (value tagPltRelSize)
      let counted ←
        match place? tagGnuHash, place? tagHash with
        | some offset, _ => bloomHashCount? b l offset
        | none, some offset => hashCount? b l machine offset
        | none, none => some 0
      let used := max rela (max rel plt)
      let count := if used = 0 then counted else max counted (used + 1)
      symbols? b l names (place tagSymbols) count

/-! ## Files -/

/-- Relocation sections must fit, and of each kind of version section the first.
-/
def sectionsReadable (b : ByteArray) (sections : List SectionHeader) : Bool :=
  let relocations := sections.all fun h =>
    if h.type == typeRela || h.type == typeRel then
      h.fits b.size && (h.size == 0 || Bytes.covers b h.offset h.size)
    else true
  let first (type : Nat) : Bool :=
    match sections.find? fun h => h.type == type with
    | none => true
    | some h => Bytes.covers b h.offset h.size
  relocations && first typeVersions && first typeVersionDefinitions && first typeVersionNeeds

def layout? (b : ByteArray) : Option Layout := do
  let is64Bit ← match ← Bytes.number? b .little 1 4 with
    | 1 => some false
    | 2 => some true
    | _ => none
  let order ← match ← Bytes.number? b .little 1 5 with
    | 1 => some Endian.little
    | 2 => some Endian.big
    | _ => none
  some { order, is64Bit }

def parse (b : ByteArray) : Option File := do
  let l ← layout? b
  let w := l.word
  let header ← Bytes.row? b l.order [2, 2, 4, w, w, w, 4, 2, 2, 2, 2, 2, 2] 16
  match header with
  | [_, machine, _, entry, segmentOffset, sectionOffset, _, _, _, segmentCount, _, sectionCount,
      nameIndex] =>
    let segments ← segments? b l segmentOffset segmentCount
    let sections ← sections? b l sectionOffset sectionCount
    let names ← stringSection? b sections nameIndex
    let staticSymbols ← staticSymbols? b l sections
    let dynamicSymbols ← dynamicSymbols? b l machine segments
    if sectionsReadable b sections then
      some
        { machine
          is64Bit := l.is64Bit
          entry := UInt64.ofNat entry
          sections := sections.map fun h => (names.at h.nameOffset, h)
          staticSymbols
          dynamicSymbols }
    else none
  | _ => none

end DebugCatalog.Image.Elf
