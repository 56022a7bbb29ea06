/-!
# Numerals

Decimal and hexadecimal numerals as lists of characters.  `decimal` has no
leading zero, `hex` is lower case, and `hexPadded w` fills with zeros on the
left up to `w` digits and never cuts.
-/

namespace DebugCatalog.Text

def decimal (n : Nat) : List Char :=
  Nat.toDigits 10 n

def decimalInt (n : Int) : List Char :=
  match n with
  | .ofNat n => decimal n
  | .negSucc n => '-' :: decimal (n + 1)

def hex (n : Nat) : List Char :=
  Nat.toDigits 16 n

def hexPadded (width n : Nat) : List Char :=
  List.replicate (width - (hex n).length) '0' ++ hex n

/-- The digit a character stands for, in bases up to sixteen and either case. -/
def hexDigit? (c : Char) : Option Nat :=
  if '0' ≤ c ∧ c ≤ '9' then some (c.toNat - '0'.toNat)
  else if 'a' ≤ c ∧ c ≤ 'f' then some (c.toNat - 'a'.toNat + 10)
  else if 'A' ≤ c ∧ c ≤ 'F' then some (c.toNat - 'A'.toNat + 10)
  else none

def digit? (c : Char) : Option Nat :=
  if '0' ≤ c ∧ c ≤ '9' then some (c.toNat - '0'.toNat) else none

theorem digit?_eq_some {c : Char} {d : Nat} (h : digit? c = some d) :
    ('0' ≤ c ∧ c ≤ '9') ∧ d = c.toNat - '0'.toNat := by
  unfold digit? at h
  split at h
  · next hc => exact ⟨hc, (Option.some.inj h).symm⟩
  · exact absurd h (by simp)

end DebugCatalog.Text
