import DebugCatalog.Image.Basic

/-!
# The data of a section

A header may claim any offset and any size for a section, and may give several sections one name.
Here this is followed to the bytes that `Image.sectionData` gives back.

`slice?` cuts bytes out only between ends that are in order and in range, so an answer of it says
that the ends are.  The end of the data may be reckoned without bounds, or in words that stop at the
largest one (`dataStop`).  No file in memory is longer than that, and then the two agree.

* `section?_eq_some_iff`: of the sections with one name, the first counts.
* `sectionData_eq_none_iff`: when there are no data.
* `sectionData_of_sections`: this, and which data there are otherwise.
-/

namespace DebugCatalog.Image

variable {v : Image} {name : String} {s : Section} {offset : UInt64}

/-! ### Names -/

/-- The section has the name, and none before it has. -/
def FirstNamed (v : Image) (name : String) (s : Section) : Prop :=
  ∃ before after, v.sections = before ++ s :: after ∧ s.name = name ∧ ∀ t ∈ before, t.name ≠ name

theorem section?_eq_some_iff : v.section? name = some s ↔ v.FirstNamed name s := by
  rw [section?, List.find?_eq_some_iff_append]
  simp only [beq_iff_eq, Bool.not_eq_true', beq_eq_false_iff_ne, FirstNamed]
  constructor
  · rintro ⟨hname, before, after, hsections, hbefore⟩
    exact ⟨before, after, hsections, hname, hbefore⟩
  · rintro ⟨before, after, hsections, hname, hbefore⟩
    exact ⟨hname, before, after, hsections, hbefore⟩

theorem section?_eq_none_iff : v.section? name = none ↔ ∀ s ∈ v.sections, s.name ≠ name := by
  simp only [section?, List.find?_eq_none, beq_iff_eq, ne_eq]

/-! ### Slices -/

/-- The bytes between two ends, if these are in order and in range. -/
def slice? (b : ByteArray) (start stop : Nat) : Option ByteArray :=
  if start ≤ stop ∧ stop ≤ b.size then some (b.extract start stop) else none

/-- Where the data end, reckoned in words. -/
def dataStop (offset size : UInt64) (length : Nat) : Nat :=
  min (Word.addSat offset size).toNat length

/-- Nothing in the file is behind the largest word, so a sum may stop there. -/
theorem dataStop_eq (offset size : UInt64) {length : Nat} (h : length ≤ Word.top) :
    dataStop offset size length = min (offset.toNat + size.toNat) length := by
  rw [dataStop, Word.addSat, Word.toNat_clamp, Nat.min_assoc, Nat.min_eq_right h]

/-- Whatever the size, the ends are in order and in range if the start is. -/
theorem slice?_min (b : ByteArray) {start : Nat} (size : Nat) (h : start < b.size) :
    slice? b start (min (start + size) b.size) =
      some (b.extract start (min (start + size) b.size)) := by
  have horder : start ≤ min (start + size) b.size :=
    Nat.le_min.2 ⟨Nat.le_add_right .., Nat.le_of_lt h⟩
  rw [slice?, if_pos ⟨horder, Nat.min_le_right ..⟩]

theorem size_extract_min (b : ByteArray) (start size : Nat) :
    (b.extract start (min (start + size) b.size)).size = min size (b.size - start) := by
  rw [ByteArray.size_extract, Nat.min_assoc, Nat.min_self]
  omega

theorem getElem?_extract {b : ByteArray} {start stop i : Nat}
    (h : i < (b.extract start stop).size) : (b.extract start stop)[i]? = b[start + i]? := by
  have hi : start + i < b.size := by
    rw [ByteArray.size_extract] at h
    omega
  rw [getElem?_pos (b.extract start stop) i h, getElem?_pos b (start + i) hi,
    ByteArray.getElem_extract]

/-! ### Data -/

theorem sectionData_eq (hs : v.FirstNamed name s) (hoffset : s.fileOffset = some offset) :
    v.sectionData name = if offset.toNat < v.size then
      some (v.bytes.extract offset.toNat (min (offset.toNat + s.size.toNat) v.size)) else none := by
  rw [sectionData, section?_eq_some_iff.2 hs]
  simp only [hoffset, bind, Option.bind]
  rfl

/-- Without a section, without contents or behind the end there are no data. -/
theorem sectionData_eq_none_iff : v.sectionData name = none ↔
    (∀ s ∈ v.sections, s.name ≠ name) ∨ (∃ s, v.FirstNamed name s ∧ s.fileOffset = none) ∨
      ∃ s offset, v.FirstNamed name s ∧ s.fileOffset = some offset ∧ v.size ≤ offset.toNat := by
  rw [← section?_eq_none_iff]
  simp only [← section?_eq_some_iff]
  cases hs : v.section? name with
  | none => simp [sectionData, hs]
  | some s =>
    cases hoffset : s.fileOffset with
    | none => simp [sectionData, hs, hoffset]
    | some offset =>
      rw [sectionData_eq (section?_eq_some_iff.1 hs) hoffset]
      simp [hoffset]

/-- **The data of a section are a slice of the file.**  Whatever offsets and sizes the headers
claim, there are no data exactly if there is no section of the name, the first one has no contents,
or its offset is at the end of the file or behind it.  Else there are as many as the section claims
or the file has, they are the bytes from the offset on, and both ends are in the file, also if the
second one is reckoned in words. -/
theorem sectionData_of_sections (v : Image) (name : String) :
    (v.sectionData name = none ↔
      (∀ s ∈ v.sections, s.name ≠ name) ∨ (∃ s, v.FirstNamed name s ∧ s.fileOffset = none) ∨
        ∃ s offset, v.FirstNamed name s ∧ s.fileOffset = some offset ∧ v.size ≤ offset.toNat) ∧
    ∀ s offset, v.FirstNamed name s → s.fileOffset = some offset → offset.toNat < v.size →
      ∃ data, v.sectionData name = some data ∧
        data.size = min s.size.toNat (v.size - offset.toNat) ∧
        (∀ i < data.size, data[i]? = v.bytes[offset.toNat + i]?) ∧
        slice? v.bytes offset.toNat (min (offset.toNat + s.size.toNat) v.size) = some data ∧
        (v.size ≤ Word.top →
          slice? v.bytes offset.toNat (dataStop offset s.size v.size) = some data) := by
  refine ⟨sectionData_eq_none_iff, fun s offset hs hoffset hstart => ?_⟩
  have hslice := slice?_min v.bytes s.size.toNat hstart
  refine ⟨_, (sectionData_eq hs hoffset).trans (if_pos hstart), size_extract_min .., ?_, hslice, ?_⟩
  · exact fun i hi => getElem?_extract hi
  · intro hlength
    rw [dataStop_eq offset s.size hlength]
    exact hslice

/-- Two sections of one name in a file of four bytes.  The first begins at the last byte and claims
as many bytes as there are words. -/
def overlongImage : Image where
  toHeaders := { Headers.raw with sections := [
    { name := ".text", start := 0, size := 0xffffffffffffffff, fileOffset := some 3 },
    { name := ".text", start := 0, size := 2, fileOffset := some 0 }] }
  name := "overlong"
  path := none
  bytes := ⟨#[0x10, 0x20, 0x30, 0x40]⟩

/-- It has the one byte that there is, and the sum of offset and size is no word. -/
theorem sectionData_of_sections_overlong : ∃ s, overlongImage.FirstNamed ".text" s ∧
    s.fileOffset = some 3 ∧ (3 : UInt64).toNat < overlongImage.size ∧
    Word.top < (3 : UInt64).toNat + s.size.toNat ∧
    overlongImage.sectionData ".text" = some ⟨#[0x40]⟩ ∧
    ∃ data, overlongImage.sectionData ".text" = some data ∧ data.size = 1 ∧
      slice? overlongImage.bytes 3 (dataStop 3 s.size overlongImage.size) = some data := by
  let s : Section :=
    { name := ".text", start := 0, size := 0xffffffffffffffff, fileOffset := some 3 }
  have hs : overlongImage.FirstNamed ".text" s := ⟨[], _, rfl, rfl, nofun⟩
  have hstart : (3 : UInt64).toNat < overlongImage.size := by decide
  obtain ⟨data, hdata, hsize, -, -, hslice⟩ :=
    (sectionData_of_sections overlongImage ".text").2 s 3 hs rfl hstart
  exact ⟨s, hs, rfl, hstart, by decide, by decide, data, hdata, hsize, hslice (by decide)⟩

end DebugCatalog.Image
