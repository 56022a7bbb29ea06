import DebugCatalog.Decimal.Shortest
import DebugCatalog.Text.Digits

/-!
# What a plain text is read as

A text without quotes is read back as a string only if it is nothing else: not
empty, not a spelling of null or of a truth value, and not a number.
`isAmbiguous` tells the texts that have to be quoted to stay strings.
-/

namespace DebugCatalog.Yaml

def nullSpellings : List String := ["null", "Null", "NULL", "~"]

def booleanSpellings : List String := ["true", "True", "TRUE", "false", "False", "FALSE"]

/-- Spellings of infinity and of what is not a number. -/
def specialNumbers : List String :=
  [".inf", ".Inf", ".INF", "+.inf", "+.Inf", "+.INF", "-.inf", "-.Inf", "-.INF",
    ".nan", ".NaN", ".NAN"]

/-! ## Whole numbers -/

/-- The value of a numeral without a sign. -/
def numeral? (base : Nat) (cs : List Char) : Option Nat :=
  if cs.isEmpty then none
  else
    cs.foldlM (fun n c =>
      match Text.hexDigit? c with
      | some d => if d < base then some (n * base + d) else none
      | none => none) 0

/-- A numeral with the mark of its base, and without a sign. -/
def marked? : List Char → Option Nat
  | '0' :: 'x' :: cs => numeral? 16 cs
  | '0' :: 'o' :: cs => numeral? 8 cs
  | '0' :: 'b' :: cs => numeral? 2 cs
  | _ => none

/-- Digits behind a zero.  They are no number, whatever their sign. -/
def hasIdleZero : List Char → Bool
  | '0' :: c :: cs => (c :: cs).all fun d => (Text.digit? d).isSome
  | _ => false

def magnitude? (cs : List Char) : Option Nat :=
  match marked? cs with
  | some n => some n
  | none => if hasIdleZero cs then none else numeral? 10 cs

/-- Half the number of words of 128 bits: `2 ^ 127`. -/
def halfWide : Nat := 1 <<< 127

/-- Whole numbers are signed or unsigned words of 128 bits. -/
def isWhole (cs : List Char) : Bool :=
  match cs with
  | '-' :: cs => (magnitude? cs).any fun n => decide (n ≤ halfWide)
  | '+' :: cs => (magnitude? cs).any fun n => decide (n < 2 * halfWide)
  | cs => (magnitude? cs).any fun n => decide (n < 2 * halfWide)

/-! ## Fractions -/

/-- Half a step above the largest double.  From there on numbers are infinite. -/
def infinityBound : Nat := (1 <<< 1024) - (1 <<< 970)

/-- Whether the double nearest to `digits · 10 ^ exponent` is finite. -/
def isFinite (digits : Nat) (exponent : Int) : Bool :=
  let length : Int := (Text.decimal digits).length
  if digits = 0 then true
  else if 310 < length + exponent then false
  else if length + exponent < 300 then true
  else if 0 ≤ exponent then digits * Decimal.tenTo exponent.toNat < infinityBound
  else digits < infinityBound * Decimal.tenTo (-exponent).toNat

def splitDigits (cs : List Char) : List Char × List Char :=
  cs.span fun c => (Text.digit? c).isSome

/-- The exponent at the end of a number, if what is left is nothing else. -/
def exponent? : List Char → Option Int
  | [] => some 0
  | c :: cs =>
    if c == 'e' || c == 'E' then
      match cs with
      | '-' :: cs => (numeral? 10 cs).map fun n => -(n : Int)
      | '+' :: cs => (numeral? 10 cs).map fun n => (n : Int)
      | cs => (numeral? 10 cs).map fun n => (n : Int)
    else none

/-- A decimal number without a sign: digits and the exponent of ten. -/
def fraction? (cs : List Char) : Option (Nat × Int) := do
  let (whole, rest) := splitDigits cs
  let (part, rest) := match rest with
    | '.' :: rest => splitDigits rest
    | rest => ([], rest)
  let digits ← numeral? 10 (whole ++ part)
  let exponent ← exponent? rest
  some (digits, exponent - (part.length : Int))

def isFraction (cs : List Char) : Bool :=
  let unsigned := match cs with
    | '-' :: cs => cs
    | '+' :: cs => cs
    | cs => cs
  specialNumbers.contains (String.ofList cs) ||
    (!hasIdleZero unsigned && (fraction? unsigned).any fun (digits, e) => isFinite digits e)

/-! ## Strings -/

/-- Digits behind a zero, possibly with a sign, are read as a string.  They are
quoted all the same, because not every reader agrees. -/
def looksNumeric (cs : List Char) : Bool :=
  hasIdleZero (match cs with
    | '-' :: cs => cs
    | '+' :: cs => cs
    | cs => cs)

/-- Whether a text needs quotes to be read as a string. -/
def isAmbiguous (cs : List Char) : Bool :=
  let s := String.ofList cs
  cs.isEmpty || nullSpellings.contains s || booleanSpellings.contains s || isWhole cs ||
    isFraction cs || looksNumeric cs

example : isAmbiguous ['1', 'e', '5'] ∧ isAmbiguous ['-', '0', 'x', 'F'] ∧
    ¬ isAmbiguous ['1', '_', '0'] ∧ ¬ isAmbiguous ['0', 'x'] := by decide +kernel

end DebugCatalog.Yaml
