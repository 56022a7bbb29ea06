import DebugCatalog.Text.Digits

/-!
# Timestamps

The text of a moment: date and time in the calendar that everybody uses, without
an offset from its zero meridian.
-/

namespace DebugCatalog.Timestamp

structure Date where
  year : Nat
  month : Nat
  day : Nat
  deriving DecidableEq, Repr

/-- Days of 400 years, after which the calendar repeats. -/
def cycleDays : Nat := 146097

/-- Days from the first of March of the year 0 to the first of January 1970. -/
def epochDays : Nat := 719468

/-- The date so many days after the first of January 1970.  Years are counted
from March on, so that the leap day is the last one. -/
def date (days : Nat) : Date :=
  let days := days + epochDays
  let day := days % cycleDays
  let year := (day - day / 1460 + day / 36524 - day / 146096) / 365
  let day := day - (365 * year + year / 4 - year / 100)
  let month := (5 * day + 2) / 153
  { year := year + days / cycleDays * 400 + (if month < 10 then 0 else 1)
    month := if month < 10 then month + 3 else month - 9
    day := day - (153 * month + 2) / 5 + 1 }

def padded (width n : Nat) : List Char :=
  let digits := Text.decimal n
  List.replicate (width - digits.length) '0' ++ digits

def nanosPerSecond : Nat := 1000000000

/-- The text of the moment so many nanoseconds after the beginning of 1970. -/
def text (nanoseconds : Nat) : String :=
  let seconds := nanoseconds / nanosPerSecond
  let d := date (seconds / 86400)
  let clock := seconds % 86400
  String.ofList <|
    padded 4 d.year ++ '-' :: padded 2 d.month ++ '-' :: padded 2 d.day ++ 'T' ::
    padded 2 (clock / 3600) ++ ':' :: padded 2 (clock / 60 % 60) ++ ':' :: padded 2 (clock % 60) ++
    '.' :: padded 9 (nanoseconds % nanosPerSecond) ++ ['+', '0', '0', ':', '0', '0']

example : date 0 = ⟨1970, 1, 1⟩ ∧ date 19782 = ⟨2024, 2, 29⟩ ∧ date 20088 = ⟨2024, 12, 31⟩ := by
  decide

end DebugCatalog.Timestamp
