import DebugCatalog.Word

/-!
# Punycode

Decodes the form in which identifiers keep characters beyond ASCII: the ASCII
characters in order, and then a sequence of deltas, each of which says where the
next character goes and how far it is from the one inserted before.  Deltas are
written in a base-36 notation of variable length whose thresholds adapt to the
deltas seen so far.  All numbers stay within 64 bits.
-/

namespace DebugCatalog.Mangling.Punycode

def base : Nat := 36

def minThreshold : Nat := 1

def maxThreshold : Nat := 26

/-- At most this many characters are decoded. -/
def maxLength : Nat := 128

def fits (n : Nat) : Bool :=
  n < Word.size

def digit? (c : Char) : Option Nat :=
  if 'a' ≤ c ∧ c ≤ 'z' then some (c.toNat - 'a'.toNat)
  else if '0' ≤ c ∧ c ≤ '9' then some (26 + (c.toNat - '0'.toNat))
  else none

/-- One delta.  `weight` is what the next digit counts, `k` its position. -/
def delta (bias : Nat) : Nat → Nat → Nat → List Char → Option (Nat × List Char)
  | _, _, _, [] => none
  | acc, weight, k, c :: cs => do
    let k := k + base
    let threshold := min (max (k - bias) minThreshold) maxThreshold
    let d ← digit? c
    let acc := acc + d * weight
    if fits (d * weight) && fits acc then
      if d < threshold then some (acc, cs)
      else if fits (weight * (base - threshold)) then
        delta bias acc (weight * (base - threshold)) k cs
      else none
    else none

/-- Scales a delta down and counts the steps. -/
def damped : Nat → Nat → Nat → Nat × Nat
  | 0, delta, k => (delta, k)
  | fuel + 1, delta, k =>
    if (base - minThreshold) * maxThreshold / 2 < delta then
      damped fuel (delta / (base - minThreshold)) (k + base)
    else (delta, k)

def adaptedBias (delta length : Nat) (first : Bool) : Nat :=
  let delta := if first then delta / 700 else delta / 2
  let (delta, k) := damped 64 (delta + delta / length) 0
  k + (base - minThreshold + 1) * delta / (delta + 38)

def isScalar (n : Nat) : Bool :=
  n < 0xD800 || (0xE000 ≤ n && n < 0x110000)

/-- Inserts one character for every delta that is left. -/
def insertAll : Nat → Bool → Nat → Nat → Nat → List Char → List Char → Option (List Char)
  | 0, _, _, _, _, _, _ => none
  | fuel + 1, first, bias, i, n, out, cs => do
    let (d, rest) ← delta bias 0 1 0 cs
    let length := out.length + 1
    let i := i + d
    if fits i then
      let n := n + i / length
      let i := i % length
      if isScalar n && length ≤ maxLength then
        let out := out.take i ++ Char.ofNat n :: out.drop i
        if rest.isEmpty then some out
        else insertAll fuel false (adaptedBias d length first) (i + 1) n out rest
      else none
    else none

/-- The characters of an identifier with the given ASCII part and deltas. -/
def decode (ascii deltas : List Char) : Option (List Char) :=
  if deltas.isEmpty || maxLength < ascii.length then none
  else insertAll deltas.length true 72 0 0x80 ascii deltas

end DebugCatalog.Mangling.Punycode
