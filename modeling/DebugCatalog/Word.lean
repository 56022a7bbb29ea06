/-!
# 64-bit words

Arithmetic that stops at the largest word instead of wrapping, and the reading
of a word as a signed number.
-/

namespace DebugCatalog.Word

/-- How many words there are: `2 ^ 64`. -/
def size : Nat := 0x10000000000000000

/-- Half as many.  Words from there on are negative when read as signed. -/
def half : Nat := 0x8000000000000000

/-- The largest word. -/
def top : Nat := size - 1

/-- A natural number, or the largest word if it is beyond it. -/
def clamp (n : Nat) : UInt64 :=
  UInt64.ofNat (min n top)

def addSat (a b : UInt64) : UInt64 :=
  clamp (a.toNat + b.toNat)

def mulSat (a b : UInt64) : UInt64 :=
  clamp (a.toNat * b.toNat)

/-- The signed number with the same bits. -/
def toSigned (w : UInt64) : Int :=
  if w.toNat < half then w.toNat else (w.toNat : Int) - size

/-- The word with the same bits as a signed number. -/
def ofSigned (n : Int) : UInt64 :=
  UInt64.ofNat (n % size).toNat

@[simp] theorem toNat_clamp (n : Nat) : (clamp n).toNat = min n top := by
  have h : min n top < UInt64.size := by unfold top size UInt64.size; omega
  rw [clamp, UInt64.toNat_ofNat', Nat.mod_eq_of_lt h]

theorem ofSigned_toSigned (w : UInt64) : ofSigned (toSigned w) = w := by
  have hw := w.toNat_lt
  apply UInt64.toNat_inj.1
  unfold ofSigned toSigned size half
  rw [UInt64.toNat_ofNat']
  split <;> omega

end DebugCatalog.Word
