/-!
# Blank characters

The characters with the `White_Space` property, and cutting them off both ends
of a text.
-/

namespace DebugCatalog.Text

/-- Pairs of first and last code point. -/
abbrev Ranges := List (Nat × Nat)

def Ranges.covers (ranges : Ranges) (c : Char) : Bool :=
  ranges.any fun (first, last) => first ≤ c.toNat && c.toNat ≤ last

def blankRanges : Ranges :=
  [(0x9, 0xd), (0x20, 0x20), (0x85, 0x85), (0xa0, 0xa0), (0x1680, 0x1680), (0x2000, 0x200a), (0x2028, 0x2029), (0x202f, 0x202f),
   (0x205f, 0x205f), (0x3000, 0x3000)]

def isBlank (c : Char) : Bool :=
  blankRanges.covers c

/-- A text without the blanks at its two ends. -/
def trim (s : List Char) : List Char :=
  ((s.dropWhile isBlank).reverse.dropWhile isBlank).reverse

example : isBlank '\u0085' ∧ isBlank '\u3000' ∧ ¬ isBlank '\u200b' := by decide

example : trim [' ', 'a', ' ', 'b', '\n'] = ['a', ' ', 'b'] := by decide

end DebugCatalog.Text
