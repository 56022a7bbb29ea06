import DebugCatalog.Image.Load
import Mathlib.Data.List.Basic

/-!
# Symbols have names

Each of the three loaders leaves out symbols without a name, in its own way: one when it looks
at an entry, one when it has looked up the name of an export, and one after it took off an
underscore.  So whatever the tables of a file hold, the symbols of its headers have names
(`Headers.FromTables.name_ne`), and the headers of every image come from tables or from nothing
(`fromTables_load`).
-/

namespace DebugCatalog.Image

variable {s : Symbol}

theorem Elf.Entry.name_ne_of_symbol? {e : Entry} (h : e.symbol? = some s) : s.name ≠ "" := by
  unfold symbol? at h
  split at h
  · cases h
  · next hkept =>
    obtain ⟨kind, -, rfl⟩ := Option.map_eq_some_iff.1 h
    exact fun hname => hkept (.inr hname)

/-- Which symbols came before decides only what is left out. -/
theorem Elf.exists_of_mem_distinctSymbols {seen : List (String × UInt64)} {es : List Entry}
    (h : s ∈ distinctSymbols seen es) : ∃ e ∈ es, e.symbol? = some s := by
  induction es generalizing seen with
  | nil => exact absurd h List.not_mem_nil
  | cons e es ih =>
    rw [List.exists_mem_cons_iff]
    rw [distinctSymbols] at h
    split at h
    · exact .inr (ih h)
    · next t ht =>
      split at h
      · exact .inr (ih h)
      · rcases List.mem_cons.1 h with rfl | hrest
        · exact .inl ht
        · exact .inr (ih hrest)

theorem Pe.File.name_ne_of_symbol? {f : File} {e : Export} (h : f.symbol? e = some s) :
    s.name ≠ "" := by
  obtain ⟨name, -, h⟩ := Option.bind_eq_some_iff.1 h
  dsimp only at h
  split at h
  · cases h
  · next hkept =>
    cases h
    exact fun hname => hkept (.inr hname)

theorem MachO.Entry.name_ne_of_symbol? {sections : List SectionHeader} {e : Entry}
    (h : e.symbol? sections = some s) : s.name ≠ "" := by
  unfold symbol? at h
  dsimp only at h
  split at h
  · cases h
  · next hkept =>
    cases h
    intro hname
    exact hkept (Bool.or_eq_true_iff.2 (.inr (beq_iff_eq.2 hname)))

/-- Headers that a loader makes of the tables of a file, whatever these hold, or that bytes in
no known format have. -/
inductive Headers.FromTables : Headers → Prop
  | elf (f : Elf.File) : FromTables f.headers
  | pe (f : Pe.File) : FromTables f.headers
  | machO (f : MachO.File) : FromTables f.headers
  | raw : FromTables .raw

theorem Headers.FromTables.name_ne {h : Headers} (hh : h.FromTables) :
    ∀ s ∈ h.symbols, s.name ≠ "" := by
  intro s hs
  cases hh with
  | elf f =>
    obtain ⟨e, -, he⟩ := Elf.exists_of_mem_distinctSymbols hs
    exact Elf.Entry.name_ne_of_symbol? he
  | pe f =>
    obtain ⟨e, -, he⟩ := List.mem_filterMap.1 hs
    exact Pe.File.name_ne_of_symbol? he
  | machO f =>
    obtain ⟨e, -, he⟩ := List.mem_filterMap.1 hs
    exact MachO.Entry.name_ne_of_symbol? he
  | raw => exact absurd hs List.not_mem_nil

theorem fromTables_of_recognize {b : ByteArray} {h : Headers} (hb : recognize b = some h) :
    h.FromTables := by
  unfold recognize at hb
  split at hb
  · cases hb
  · obtain ⟨magic, -, hb⟩ := Option.bind_eq_some_iff.1 hb
    split at hb
    · obtain ⟨f, -, rfl⟩ := Option.map_eq_some_iff.1 hb
      exact .elf f
    · split at hb
      · obtain ⟨f, -, rfl⟩ := Option.map_eq_some_iff.1 hb
        exact .pe f
      · obtain ⟨f, -, rfl⟩ := Option.map_eq_some_iff.1 hb
        exact .machO f

theorem fromTables_load (name : String) (path : Option String) (b : ByteArray) :
    (load name path b).toHeaders.FromTables := by
  change ((recognize b).getD .raw).FromTables
  cases hb : recognize b with
  | none => exact .raw
  | some h => exact fromTables_of_recognize hb

end DebugCatalog.Image
