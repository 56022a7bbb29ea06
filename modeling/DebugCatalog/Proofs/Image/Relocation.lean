import DebugCatalog.Image.Load
import Mathlib.Data.List.Forall2
import Mathlib.Data.Nat.Digits.Defs

/-!
# Relocated images

The addresses of an image are relative to its base and wrap around behind the largest word, but
the end of the executable sections does not: `Pe.File.codeRanges` stops at the largest word.  So
the same file may say different things of its exports when it is based elsewhere.
`kinds_of_base` has what stays the same, and exactly which exports are no functions though they
lie in executable code.

* `inRange_iff`: the arithmetic.  An address is in the range of a section exactly if it is one of
  the section's and stays below the largest word when counted on from the start of the section.
* `narrow_of_parse`: all numbers in the tables of a file have 32 bits.  So no section goes all the
  way round, and only bases near the largest word are of any concern (`File.Narrow.fits`).
-/

namespace DebugCatalog.Image

/-! ### Numbers of a given width -/

namespace Bytes

variable {b : ByteArray} {order : Endian} {offset : Nat}

theorem foldl_eq_ofDigits (digits : List Nat) :
    digits.foldl (fun n d => n * 256 + d) 0 = Nat.ofDigits 256 digits.reverse := by
  rw [Nat.ofDigits_eq_foldr, List.foldr_reverse]
  congr 1
  funext n d
  rw [Nat.add_comm, Nat.mul_comm]
  rfl

theorem foldl_digits_lt {digits : List Nat} (h : ∀ d ∈ digits, d < 256) :
    digits.foldl (fun n d => n * 256 + d) 0 < 256 ^ digits.length := by
  have hlt := Nat.ofDigits_lt_base_pow_length (by decide : 1 < 256) (l := digits.reverse)
    fun d hd => h d (List.mem_reverse.1 hd)
  rwa [← foldl_eq_ofDigits, List.length_reverse] at hlt

theorem number?_lt {width n : Nat} (h : number? b order width offset = some n) :
    n < 256 ^ width := by
  have hdigits : ∀ d ∈ (List.range width).map fun i => (b[offset + i]?.getD 0).toNat, d < 256 := by
    intro d hd
    obtain ⟨i, -, rfl⟩ := List.mem_map.1 hd
    exact UInt8.toNat_lt _
  unfold number? at h
  split at h
  · cases h
    cases order with
    | little =>
      have hlt := foldl_digits_lt fun d hd => hdigits d (List.mem_reverse.1 hd)
      rwa [List.length_reverse, List.length_map, List.length_range] at hlt
    | big =>
      have hlt := foldl_digits_lt hdigits
      rwa [List.length_map, List.length_range] at hlt
  · cases h

theorem row?_lt {widths ns : List Nat} (h : row? b order widths offset = some ns) :
    List.Forall₂ (fun width n => n < 256 ^ width) widths ns := by
  induction widths generalizing offset ns with
  | nil =>
    cases h
    exact .nil
  | cons width widths ih =>
    obtain ⟨n, hn, h⟩ := Option.bind_eq_some_iff.1 h
    obtain ⟨rest, hrest, h⟩ := Option.bind_eq_some_iff.1 h
    cases h
    exact .cons (number?_lt hn) (ih hrest)

theorem rowsUpTo_lt {width count n : Nat}
    (h : n ∈ (rowsUpTo b order [width] count offset).flatten) : n < 256 ^ width := by
  induction count generalizing offset with
  | zero => cases h
  | succ count ih =>
    rw [rowsUpTo] at h
    split at h
    · cases h
    · next first hfirst =>
      rcases List.mem_append.1 h with hn | hn
      · cases row?_lt hfirst with
        | cons hlt hnil =>
          cases hnil
          obtain rfl := List.mem_singleton.1 hn
          exact hlt
      · exact ih hn

end Bytes

namespace Pe

variable {f : File} {h : SectionHeader} {e : Export} {y : Symbol} {relative : Nat}

/-! ### Where code is -/

/-- How many addresses a section has for its code. -/
def SectionHeader.extent (h : SectionHeader) : Nat :=
  max h.virtualSize h.rawSize

/-- A relative address is one of the section. -/
def SectionHeader.Covers (h : SectionHeader) (relative : Nat) : Prop :=
  h.virtualAddress ≤ relative ∧ relative < h.virtualAddress + h.extent

/-- A relative address is one of an executable section. -/
def File.InCode (f : File) (relative : Nat) : Prop :=
  ∃ h ∈ f.sections, h.isExecutable ∧ h.Covers relative

/-- It is, and it is below the largest word when counted on from the start of the section. -/
def File.Reaches (f : File) (relative : Nat) : Prop :=
  ∃ h ∈ f.sections, h.isExecutable ∧ h.Covers relative ∧
    (f.address h.virtualAddress).toNat + (relative - h.virtualAddress) < Word.top

/-- No executable section reaches the largest word. -/
def File.Fits (f : File) : Prop :=
  ∀ h ∈ f.sections, h.isExecutable → (f.address h.virtualAddress).toNat + h.extent ≤ Word.top

theorem File.Reaches.inCode (hr : f.Reaches relative) : f.InCode relative := by
  obtain ⟨h, hmem, hexec, hcovers, -⟩ := hr
  exact ⟨h, hmem, hexec, hcovers⟩

theorem File.Fits.reaches_iff (hfits : f.Fits) : f.Reaches relative ↔ f.InCode relative := by
  refine ⟨File.Reaches.inCode, ?_⟩
  rintro ⟨h, hmem, hexec, hcovers⟩
  have hend := hfits h hmem hexec
  obtain ⟨hfirst, hlast⟩ := hcovers
  exact ⟨h, hmem, hexec, ⟨hfirst, hlast⟩, by omega⟩

/-! ### Numbers of 32 bits -/

structure SectionHeader.Narrow (h : SectionHeader) : Prop where
  virtualSize : h.virtualSize < 2 ^ 32
  virtualAddress : h.virtualAddress < 2 ^ 32
  rawSize : h.rawSize < 2 ^ 32

theorem SectionHeader.Narrow.extent_lt (hh : h.Narrow) : h.extent < 2 ^ 32 :=
  Nat.max_lt.2 ⟨hh.virtualSize, hh.rawSize⟩

/-- The numbers in the tables have 32 bits. -/
structure File.Narrow (f : File) : Prop where
  sections : ∀ h ∈ f.sections, h.Narrow
  exports : ∀ e ∈ f.exports, e.address < 2 ^ 32

theorem narrow_of_section? {b : ByteArray} {strings offset : Nat}
    (hread : section? b strings offset = some h) : h.Narrow := by
  unfold section? at hread
  obtain ⟨row, hrow, hread⟩ := Option.bind_eq_some_iff.1 hread
  split at hread
  · next virtualSize virtualAddress rawSize _ _ _ _ _ _ =>
    have hnarrow : virtualSize < 2 ^ 32 ∧ virtualAddress < 2 ^ 32 ∧ rawSize < 2 ^ 32 := by
      cases Bytes.row?_lt hrow with
      | cons hsize hrow => cases hrow with
        | cons haddress hrow => cases hrow with
          | cons hraw hrow => exact ⟨hsize, haddress, hraw⟩
    obtain ⟨hsize, haddress, hraw⟩ := hnarrow
    -- The name is looked up in one of two places, and neither changes the numbers.
    obtain ⟨place, -, hread⟩ := Option.bind_eq_some_iff.1 hread
    dsimp only at hread
    split at hread
    all_goals
      obtain ⟨name, -, hread⟩ := Option.bind_eq_some_iff.1 hread
      cases hread
      exact ⟨hsize, haddress, hraw⟩
  · cases hread

theorem narrow_of_mem_sections? {b : ByteArray} {strings : Nat} {count offset : Nat} {hs}
    (hread : sections? b strings count offset = some hs) (hmem : h ∈ hs) : h.Narrow := by
  induction count generalizing offset hs with
  | zero =>
    cases hread
    cases hmem
  | succ count ih =>
    obtain ⟨first, hfirst, hread⟩ := Option.bind_eq_some_iff.1 hread
    obtain ⟨rest, hrest, hread⟩ := Option.bind_eq_some_iff.1 hread
    cases hread
    rcases List.mem_cons.1 hmem with rfl | hmem
    · exact narrow_of_section? hfirst
    · exact ih hrest hmem

theorem lt_of_mem_column {b : ByteArray} {m : Mapping} {width count address n : Nat}
    (hn : n ∈ column b m width count address) : n < 256 ^ width := by
  unfold column at hn
  split at hn
  · cases hn
  · exact Bytes.rowsUpTo_lt hn

theorem mem_getD_nil_iff {α : Type} {l? : Option (List α)} {a : α} :
    a ∈ l?.getD [] ↔ ∃ l, l? = some l ∧ a ∈ l := by
  cases l? with
  | none => exact iff_of_false List.not_mem_nil nofun
  | some l =>
    constructor
    · exact fun ha => ⟨l, rfl, ha⟩
    · rintro ⟨_, hl, ha⟩
      cases hl
      exact ha

theorem lt_of_mem_exports {b : ByteArray} {m : Mapping} {d : Directory} (he : e ∈ exports b m d) :
    e.address < 2 ^ 32 := by
  obtain ⟨es, hes, he⟩ := mem_getD_nil_iff.1 he
  obtain ⟨offset, -, hes⟩ := Option.bind_eq_some_iff.1 hes
  obtain ⟨row, -, hes⟩ := Option.bind_eq_some_iff.1 hes
  split at hes
  · split at hes
    · cases hes
    · cases hes
      obtain ⟨entry, -, hentry⟩ := List.mem_filterMap.1 he
      obtain ⟨address, haddress, hentry⟩ := Option.bind_eq_some_iff.1 hentry
      split at hentry
      · cases hentry
      · cases hentry
        exact lt_of_mem_column (List.mem_of_getElem? haddress)
  · cases hes

/-- The numbers in the tables of a file have 32 bits. -/
theorem narrow_of_parse {b : ByteArray} (hparse : parse b = some f) : f.Narrow := by
  unfold parse at hparse
  obtain ⟨start, -, hparse⟩ := Option.bind_eq_some_iff.1 hparse
  obtain ⟨signature, -, hparse⟩ := Option.bind_eq_some_iff.1 hparse
  split at hparse
  · cases hparse
  obtain ⟨row, -, hparse⟩ := Option.bind_eq_some_iff.1 hparse
  split at hparse
  · dsimp only at hparse
    -- With or without an optional header, what follows is read in the same way.
    obtain ⟨optional, hparse⟩ : ∃ optional, _ = some f := by
      split at hparse
      all_goals
        obtain ⟨optional, -, hparse⟩ := Option.bind_eq_some_iff.1 hparse
        exact ⟨optional, hparse⟩
    split at hparse
    · cases hparse
    obtain ⟨sections, hsections, hparse⟩ := Option.bind_eq_some_iff.1 hparse
    split at hparse
    · cases hparse
      exact ⟨fun h hmem => narrow_of_mem_sections? hsections hmem, nofun⟩
    · split at hparse
      · cases hparse
        refine ⟨fun h hmem => narrow_of_mem_sections? hsections hmem, fun e he => ?_⟩
        obtain ⟨es, hes, he⟩ := mem_getD_nil_iff.1 he
        obtain ⟨d, -, rfl⟩ := Option.map_eq_some_iff.1 hes
        exact lt_of_mem_exports he
      · cases hparse
  · cases hparse

/-! ### The range of a section -/

theorem toNat_address (f : File) (relative : Nat) :
    (f.address relative).toNat = (f.imageBase.toNat + relative) % 2 ^ 64 := by
  rw [File.address, UInt64.toNat_add, UInt64.toNat_ofNat', Nat.add_mod_mod]

/-- The range of a section has those of its addresses that are counted on from its start without
reaching the largest word.  With 32 bits no address comes round into the range from below. -/
theorem inRange_iff (hh : h.Narrow) (hr : relative < 2 ^ 32) :
    (f.address h.virtualAddress ≤ f.address relative ∧
      f.address relative <
        Word.addSat (f.address h.virtualAddress) (UInt64.ofNat h.extent)) ↔
    h.Covers relative ∧
      (f.address h.virtualAddress).toNat + (relative - h.virtualAddress) < Word.top := by
  have hextent := hh.extent_lt
  have hfirst := hh.virtualAddress
  have hbase := f.imageBase.toNat_lt
  have hextent' : (UInt64.ofNat h.extent).toNat = h.extent := by
    rw [UInt64.toNat_ofNat', Nat.mod_eq_of_lt (by omega)]
  rw [UInt64.le_iff_toNat_le, UInt64.lt_iff_toNat_lt, Word.addSat, Word.toNat_clamp, hextent',
    Nat.lt_min, toNat_address, toNat_address, SectionHeader.Covers]
  unfold Word.top Word.size
  omega

/-- No section of a file that is based lower reaches the largest word. -/
theorem File.Narrow.fits (hf : f.Narrow) (hbase : f.imageBase.toNat ≤ 2 ^ 64 - 3 * 2 ^ 32) :
    f.Fits := by
  intro h hmem _
  have haddress := (hf.sections h hmem).virtualAddress
  have hextent := (hf.sections h hmem).extent_lt
  rw [toNat_address]
  unfold Word.top Word.size
  omega

theorem kindAt_eq_function_iff {address : UInt64} : f.kindAt address = .function ↔
    ∃ h ∈ f.sections, h.isExecutable ∧ f.address h.virtualAddress ≤ address ∧
      address < Word.addSat (f.address h.virtualAddress) (UInt64.ofNat h.extent) := by
  rw [File.kindAt, ite_eq_left_iff]
  simp only [reduceCtorEq, imp_false, not_not, List.any_eq_true, File.codeRanges, List.mem_map,
    List.mem_filter, Bool.and_eq_true, decide_eq_true_eq]
  constructor
  · rintro ⟨_, ⟨h, ⟨hmem, hexec⟩, rfl⟩, hfirst, hlast⟩
    exact ⟨h, hmem, hexec, hfirst, hlast⟩
  · rintro ⟨h, hmem, hexec, hfirst, hlast⟩
    exact ⟨_, ⟨h, ⟨hmem, hexec⟩, rfl⟩, hfirst, hlast⟩

theorem kindAt_address_iff (hf : f.Narrow) (hr : relative < 2 ^ 32) :
    f.kindAt (f.address relative) = .function ↔ f.Reaches relative := by
  rw [kindAt_eq_function_iff]
  refine exists_congr fun h => and_congr_right fun hmem => and_congr_right fun _ => ?_
  exact inRange_iff (hf.sections h hmem) hr

/-! ### The same file at another base -/

/-- The file with another image base. -/
def File.based (f : File) (base : UInt64) : File :=
  { f with imageBase := base }

/-- At another base an export is the same symbol, moved, but may be of another kind. -/
theorem symbol?_based (f : File) (base : UInt64) (e : Export) :
    (f.based base).symbol? e = (f.symbol? e).map fun y =>
      { y with
        address := (f.based base).address e.address
        kind := (f.based base).kindAt ((f.based base).address e.address) } := by
  unfold File.symbol?
  cases e.name with
  | none => rfl
  | some name =>
    change (if _ then _ else _) = Option.map _ (if _ then _ else _)
    split
    · rfl
    · rfl

theorem File.Narrow.based (hf : f.Narrow) (base : UInt64) : (f.based base).Narrow :=
  ⟨hf.sections, hf.exports⟩

theorem kind_of_symbol? (hf : f.Narrow) (he : e ∈ f.exports) (hy : f.symbol? e = some y) :
    y.kind = .function ↔ f.Reaches e.address := by
  rw [← kindAt_address_iff hf (hf.exports e he)]
  obtain ⟨name, -, hy⟩ := Option.bind_eq_some_iff.1 hy
  dsimp only at hy
  split at hy
  · cases hy
  · cases hy
    exact Iff.rfl

theorem symbolKind_eq_of_iff {k l : SymbolKind} (h : k = .function ↔ l = .function) : k = l := by
  cases k with
  | function => exact (h.1 rfl).symm
  | data =>
    cases l with
    | function => cases h.2 rfl
    | data => rfl

/-- Wherever no executable section reaches the largest word the kinds are the same. -/
theorem kindAt_based_eq (hf : f.Narrow) {base other : UInt64} (hbase : (f.based base).Fits)
    (hother : (f.based other).Fits) (hr : relative < 2 ^ 32) :
    (f.based base).kindAt ((f.based base).address relative) =
      (f.based other).kindAt ((f.based other).address relative) := by
  apply symbolKind_eq_of_iff
  rw [kindAt_address_iff (hf.based base) hr, kindAt_address_iff (hf.based other) hr,
    hbase.reaches_iff, hother.reaches_iff]
  rfl

/-- **Kinds and the image base.**  Which exports of a file are kept, their order and their names
are the same wherever it is based.  A kept export is a function exactly if an executable section
has it and, counted on from the start of that section, it stays below the largest word.  So it is
never one unless it lies in executable code.

Wherever no executable section reaches the largest word, all that lie in executable code are
functions, and at two such bases the kinds are the same. -/
theorem kinds_of_base (hf : f.Narrow) (base : UInt64) :
    (f.based base).headers.symbols.map Symbol.name = f.headers.symbols.map Symbol.name ∧
    (∀ e ∈ f.exports, ∀ y, (f.based base).symbol? e = some y →
      (y.kind = .function ↔ (f.based base).Reaches e.address) ∧
      (y.kind = .function → f.InCode e.address) ∧
      ((f.based base).Fits → (y.kind = .function ↔ f.InCode e.address))) ∧
    ∀ other, (f.based base).Fits → (f.based other).Fits →
      (f.based base).headers.symbols.map (fun y => (y.name, y.kind)) =
        (f.based other).headers.symbols.map fun y => (y.name, y.kind) := by
  have hexact : ∀ e ∈ f.exports, ∀ y, (f.based base).symbol? e = some y →
      (y.kind = .function ↔ (f.based base).Reaches e.address) :=
    fun e he y hy => kind_of_symbol? (hf.based base) he hy
  refine ⟨?_, fun e he y hy => ⟨hexact e he y hy, ?_, ?_⟩, fun other hbase hother => ?_⟩
  · unfold File.headers
    rw [List.map_filterMap, List.map_filterMap]
    refine List.filterMap_congr fun e _ => ?_
    rw [symbol?_based, Option.map_map]
    rfl
  · exact fun hkind => ((hexact e he y hy).1 hkind).inCode
  · exact fun hfits => (hexact e he y hy).trans hfits.reaches_iff
  · unfold File.headers
    rw [List.map_filterMap, List.map_filterMap]
    refine List.filterMap_congr fun e he => ?_
    rw [symbol?_based f base, symbol?_based f other, Option.map_map, Option.map_map,
      kindAt_based_eq hf hbase hother (hf.exports e he)]
    rfl

/-- Code of two pages, with one export in the second. -/
def twoPages : File where
  machine := 0x8664
  is64Bit := true
  entry := 0xf000
  imageBase := 0x140000000
  sections := [{
    name := ".text"
    virtualSize := 0x2000
    virtualAddress := 0xf000
    rawSize := 0x2000
    rawOffset := 0x600
    flags := 0x60000020 }]
  exports := [⟨some "fixture_entry", 0x10010⟩]

theorem narrow_twoPages : twoPages.Narrow := by
  refine ⟨fun h hmem => ?_, fun e he => ?_⟩
  · obtain rfl := List.mem_singleton.1 hmem
    exact ⟨by decide, by decide, by decide⟩
  · obtain rfl := List.mem_singleton.1 he
    decide

/-- If the second page is behind the largest word, its export is no function. -/
theorem kinds_of_base_twoPages : twoPages.Narrow ∧
    ∃ y z, (twoPages.based 0xffffffffffff0000).symbol? ⟨some "fixture_entry", 0x10010⟩ = some y ∧
      (twoPages.based 0x140000000).symbol? ⟨some "fixture_entry", 0x10010⟩ = some z ∧
      twoPages.InCode 0x10010 ∧ y.kind ≠ .function ∧ z.kind = .function := by
  have hcode : twoPages.InCode 0x10010 :=
    ⟨_, List.mem_singleton_self _, by decide, by decide, by decide⟩
  refine ⟨narrow_twoPages, _, _, rfl, rfl, hcode, fun hkind => ?_, ?_⟩
  · obtain ⟨hexact, -, -⟩ := (kinds_of_base narrow_twoPages 0xffffffffffff0000).2.1
      _ (List.mem_singleton_self _) _ rfl
    obtain ⟨h, hmem, -, -, hbelow⟩ := hexact.1 hkind
    obtain rfl := List.mem_singleton.1 hmem
    exact absurd hbelow (by decide)
  · obtain ⟨-, -, hfits⟩ := (kinds_of_base narrow_twoPages 0x140000000).2.1
      _ (List.mem_singleton_self _) _ rfl
    exact (hfits ((narrow_twoPages.based _).fits (by decide))).2 hcode

end Pe

end DebugCatalog.Image
