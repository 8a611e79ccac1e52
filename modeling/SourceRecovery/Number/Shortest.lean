import SourceRecovery.Number.Binary

/-!
# Shortest decimals

The decimal written for a binary number has the fewest digits that still read back as that number,
and among those it is the one nearest to it. A number `mantissa * 2 ^ scale` is read back from every
decimal between the midpoints to its two neighbours, the midpoints included when the mantissa is
even.
-/

namespace SourceRecovery

/-- The decimal `d.ddd * 10 ^ exponent`, its digits given as one number. -/
structure Decimal where
  digits : Nat
  exponent : Int
deriving DecidableEq

namespace Decimal

def digitChars (d : Decimal) : List Char := Nat.toDigits 10 d.digits

end Decimal

namespace Shortest

def width (n : Nat) : Nat := (Nat.toDigits 10 n).length

def leadingExponent (num den : Nat) : Int :=
  if den ≤ num then (width (num / den) : Int) - 1 else -(width ((den - 1) / num) : Int)

/-- A positive number and the interval around it that reads back as it, over one denominator. -/
structure Interval where
  low : Nat
  value : Nat
  high : Nat
  den : Nat
  closed : Bool

/-- In quarters of the last binary place the midpoints are whole: two above, and two or, before a
power of two, one below. -/
def Interval.around (mantissa : Nat) (scale : Int) (tight : Bool) : Interval :=
  let up := twoTo (scale - 2).toNat
  ⟨(4 * mantissa - if tight then 1 else 2) * up, 4 * mantissa * up, (4 * mantissa + 2) * up,
    twoTo (2 - scale).toNat, mantissa % 2 == 0⟩

/-- The interval with every number multiplied by `10 ^ (-unit)`, so that the grid of spacing
`10 ^ unit` becomes the integers. -/
def Interval.onGrid (i : Interval) (unit : Int) : Interval :=
  let down := Nat.pow 10 unit.toNat
  let up := Nat.pow 10 (-unit).toNat
  ⟨i.low * up, i.value * up, i.high * up, i.den * down, i.closed⟩

def Interval.admits (i : Interval) (n : Nat) : Bool :=
  if i.closed then i.low ≤ n * i.den && n * i.den ≤ i.high
  else i.low < n * i.den && n * i.den < i.high

/-- The integer next to the value that the interval admits. Of two, the nearer one; halfway, the
larger one. -/
def Interval.nearest? (i : Interval) : Option Nat :=
  let below := i.value / i.den
  let above := below + 1
  match i.admits below, i.admits above with
  | true, true =>
    some (if above * i.den - i.value ≤ i.value - below * i.den then above else below)
  | true, false => some below
  | false, true => some above
  | false, false => none

def stripZeros (fuel n : Nat) : Nat :=
  match fuel with
  | 0 => n
  | fuel + 1 => if n % 10 = 0 then stripZeros fuel (n / 10) else n

/-- The first grid with an admitted point, from `places` digits on; `more` grids are left to try. -/
def search (i : Interval) (leading : Int) : Nat → Nat → Option Decimal
  | _, 0 => none
  | places, more + 1 =>
    let unit := leading - (places : Int) + 1
    match (i.onGrid unit).nearest? with
    | some n => some ⟨stripZeros (width n) n, unit + (width n : Int) - 1⟩
    | none => search i leading (places + 1) more

/-- Seventeen digits tell any two numbers of the formats apart. -/
def mostDigits : Nat := 17

def ofFinite (mantissa : Nat) (scale : Int) (tight : Bool) : Decimal :=
  let i := Interval.around mantissa scale tight
  (search i (leadingExponent i.value i.den) 1 mostDigits).getD ⟨0, 0⟩

end Shortest

end SourceRecovery
