import DebugCatalog.Image.Basic

/-!
# Sections at the top of the address space

A header may put the end of a section anywhere, also behind the largest address.  `Section.Covers`
has the addresses of a section in unbounded arithmetic, where nothing wraps and nothing stops.

`Section.stop` is an address itself, and the first one behind the section.  There is none behind
the largest address, so a section that reaches it is one address short.

* `toNat_stop`: where a section ends.
* `contains_iff_covers`: a section contains the addresses it covers, less the largest one, and
  exactly where this differs from what it covers.
-/

namespace DebugCatalog.Section

variable {s : Section} {a : UInt64}

/-- An address is one of the bytes that the header of the section speaks of. -/
def Covers (s : Section) (a : UInt64) : Prop :=
  s.start.toNat ≤ a.toNat ∧ a.toNat - s.start.toNat < s.size.toNat

/-- The section has addresses up to the largest one, or would go on behind it. -/
def ReachesTop (s : Section) : Prop :=
  Word.size ≤ s.start.toNat + s.size.toNat

theorem toNat_stop (s : Section) :
    s.stop.toNat = min (s.start.toNat + s.size.toNat) Word.top :=
  Word.toNat_clamp _

theorem toNat_le_top (a : UInt64) : a.toNat ≤ Word.top :=
  Nat.le_sub_one_of_lt a.toNat_lt

theorem contains_eq_true_iff :
    s.contains a = true ↔ s.start.toNat ≤ a.toNat ∧ a.toNat < s.stop.toNat := by
  rw [contains, Bool.and_eq_true, decide_eq_true_iff, decide_eq_true_iff, UInt64.le_iff_toNat_le,
    UInt64.lt_iff_toNat_lt]

/-- The largest address is covered exactly if the section goes up to it. -/
theorem covers_top_iff (ha : a.toNat = Word.top) : s.Covers a ↔ s.ReachesTop := by
  have hstart := toNat_le_top s.start
  have hsize : Word.size = Word.top + 1 := rfl
  rw [Covers, ReachesTop, ha]
  omega

/-- **A section contains the addresses it covers, the largest one excepted.**  So it contains
exactly what it covers, except that one that reaches the largest address does not contain it. -/
theorem contains_iff_covers (s : Section) (a : UInt64) :
    (s.contains a = true ↔ s.Covers a ∧ a.toNat ≠ Word.top) ∧
    ((s.contains a = true ↔ s.Covers a) ↔ ¬ (a.toNat = Word.top ∧ s.ReachesTop)) := by
  have hexcept : s.contains a = true ↔ s.Covers a ∧ a.toNat ≠ Word.top := by
    have hle := toNat_le_top a
    rw [contains_eq_true_iff, toNat_stop, Covers]
    omega
  refine ⟨hexcept, ?_⟩
  rw [hexcept, and_iff_left_iff_imp, not_and]
  constructor
  · intro hbelow htop hreaches
    exact hbelow ((covers_top_iff htop).2 hreaches) htop
  · intro hshort hcovers htop
    exact hshort htop ((covers_top_iff htop).1 hcovers)

/-- A section of one byte at the largest address: the byte is covered and not contained. -/
theorem contains_iff_covers_lastByte : ∃ s : Section, ∃ a : UInt64,
    s.start = 0xffffffffffffffff ∧ s.size = 1 ∧ a = s.start ∧ s.Covers a ∧
      s.contains a = false := by
  let s : Section := { name := ".text", start := 0xffffffffffffffff, size := 1, fileOffset := none }
  have hcovers : s.Covers s.start := by
    unfold Covers
    decide
  refine ⟨s, s.start, rfl, rfl, rfl, hcovers, ?_⟩
  rw [Bool.eq_false_iff, Ne, (contains_iff_covers s s.start).1]
  exact fun h => h.2 (by decide)

end DebugCatalog.Section
