/-!
# Shortest decimal of a binary fraction

A positive number `m · 2 ^ q` with a 53-bit `m` is read back from every decimal
that lies in the interval of numbers nearer to it than to its neighbours.
`shortest m q` is the decimal `d · 10 ^ e` in that interval with the fewest
digits, and of those the nearest one.  Everything is exact arithmetic on
natural numbers: a fraction `num / den` stands for each bound.
-/

namespace DebugCatalog.Decimal

/-- A power of ten. -/
def tenTo (n : Nat) : Nat :=
  Nat.pow 10 n

/-- A decimal `digits · 10 ^ exponent`. -/
structure Scientific where
  digits : Nat
  exponent : Int
  deriving DecidableEq, Repr

/-- The three numbers that matter for `m · 2 ^ q`, over one denominator: the
lower bound of the interval, the number itself, and the upper bound. -/
structure Interval where
  low : Nat
  mid : Nat
  high : Nat
  den : Nat
  /-- The bounds belong to the interval. -/
  closed : Bool

namespace Interval

/-- The interval of `m · 2 ^ q`.  Below a power of two the neighbour is only
half as far away, unless it is the smallest exponent. -/
def ofBinary (m : Nat) (q : Int) (powerOfTwo : Bool) : Interval :=
  let scale (n : Nat) : Nat := if 0 ≤ q then n <<< q.toNat else n
  let den : Nat := if 0 ≤ q then 4 else 4 <<< (-q).toNat
  { low := scale (4 * m - if powerOfTwo then 1 else 2)
    mid := scale (4 * m)
    high := scale (4 * m + 2)
    den
    closed := m % 2 == 0 }

/-- Whether `digits · 10 ^ exponent` lies in the interval. -/
def holds (i : Interval) (digits : Nat) (exponent : Int) : Bool :=
  let x := if 0 ≤ exponent then digits * tenTo exponent.toNat * i.den else digits * i.den
  let unit := if 0 ≤ exponent then 1 else tenTo (-exponent).toNat
  if i.closed then i.low * unit ≤ x && x ≤ i.high * unit
  else i.low * unit < x && x < i.high * unit

/-- The nearer of the two grid points around the number that the interval
holds, on the grid of multiples of `10 ^ exponent`; a tie goes to the even one. -/
def onGrid? (i : Interval) (exponent : Int) : Option Nat :=
  let num := if 0 ≤ exponent then i.mid else i.mid * tenTo (-exponent).toNat
  let den := if 0 ≤ exponent then i.den * tenTo exponent.toNat else i.den
  let down := num / den
  let up := down + 1
  let nearer :=
    if 2 * (num % den) < den then down
    else if 2 * (num % den) > den then up
    else if down % 2 == 0 then down else up
  let other := if nearer == down then up else down
  if 0 < nearer && i.holds nearer exponent then some nearer
  else if 0 < other && i.holds other exponent then some other
  else none

end Interval

/-- Number of decimal digits of the integer part of `num / den`, or minus the
number of zeros after the point. -/
def magnitude (num den : Nat) : Int :=
  if den ≤ num then (Nat.toDigits 10 (num / den)).length
  else
    let zeros := (List.range 400).find? fun k => den ≤ num * tenTo (k + 1)
    Int.negOfNat (zeros.getD 400)

/-- Grids with one, two, … seventeen digits, coarsest first. -/
def shortest (m : Nat) (q : Int) (powerOfTwo : Bool) : Scientific :=
  let i := Interval.ofBinary m q powerOfTwo
  let top := magnitude i.mid i.den
  let found := (List.range 18).findSome? fun (k : Nat) =>
    let exponent := top - (k : Int)
    (i.onGrid? exponent).map fun digits => (⟨digits, exponent⟩ : Scientific)
  found.getD ⟨0, 0⟩

/-- The fraction of a double has 52 bits and its exponent eleven. -/
def fractionEnd : Nat := 0x10000000000000

def exponentEnd : Nat := 0x800

/-- The parts of a double: sign, significand, exponent of two, and whether the
number below is nearer than the one above. -/
def parts (x : Float) : Bool × Nat × Int × Bool :=
  let bits := x.toBits.toNat
  let negative := bits / (exponentEnd * fractionEnd) == 1
  let exponent : Nat := bits / fractionEnd % exponentEnd
  let fraction : Nat := bits % fractionEnd
  if exponent == 0 then (negative, fraction, -1074, false)
  else (negative, fraction + fractionEnd, (exponent : Int) - 1075, fraction == 0 && 1 < exponent)

/-- A decimal without trailing zeros in its digits. -/
def Scientific.trim (fuel : Nat) (d : Scientific) : Scientific :=
  match fuel with
  | 0 => d
  | fuel + 1 =>
    if d.digits != 0 && d.digits % 10 == 0 then trim fuel ⟨d.digits / 10, d.exponent + 1⟩ else d

/-- Shortest text of a finite double.  Positional from `1e-5` up to `1e16`, with
a point and at least one digit on each side of it; otherwise one digit, the
others after a point, and an exponent that always has a sign. -/
def ofFloat (x : Float) : String :=
  let (negative, m, q, powerOfTwo) := parts x
  let sign := if negative then "-" else ""
  if m == 0 then sign ++ "0.0"
  else
    let d := (shortest m q powerOfTwo).trim 20
    let text := Nat.toDigits 10 d.digits
    let point := (text.length : Int) + d.exponent
    let zeros (n : Int) : List Char := List.replicate n.toNat '0'
    let body : List Char :=
      if 0 ≤ d.exponent && point ≤ 16 then text ++ zeros d.exponent ++ ['.', '0']
      else if 0 < point && point ≤ 16 then text.take point.toNat ++ '.' :: text.drop point.toNat
      else if -5 < point && point ≤ 0 then '0' :: '.' :: (zeros (-point) ++ text)
      else
        let e := point - 1
        let head := match text with
          | c :: c' :: r => c :: '.' :: c' :: r
          | short => short
        head ++ 'e' :: (if e < 0 then '-' else '+') :: Nat.toDigits 10 e.natAbs
    sign ++ String.ofList body

end DebugCatalog.Decimal
