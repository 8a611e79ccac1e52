/-!
# Binary floating point numbers as bit patterns

A number is kept as its bits. `Format.decode` reads them as a sign and an exact magnitude
`mantissa * 2 ^ scale`, and everything else is integer arithmetic on that.
-/

namespace SourceRecovery

def twoTo (n : Nat) : Nat := Nat.pow 2 n

/-- The widths of the fraction and exponent fields of a binary format. -/
structure BinaryFormat where
  fractionBits : Nat
  exponentBits : Nat

namespace BinaryFormat

def single : BinaryFormat := ⟨23, 8⟩

def double : BinaryFormat := ⟨52, 11⟩

def bias (f : BinaryFormat) : Nat := twoTo (f.exponentBits - 1) - 1

end BinaryFormat

/-- The size of a number without its sign. `tight` holds when the next smaller number is only half
as far away as the next larger one. -/
inductive Magnitude where
  | notANumber
  | infinite
  | finite (mantissa : Nat) (scale : Int) (tight : Bool)
deriving DecidableEq

structure Decoded where
  negative : Bool
  magnitude : Magnitude
deriving DecidableEq

def BinaryFormat.decode (f : BinaryFormat) (bits : Nat) : Decoded :=
  let fraction := bits % twoTo f.fractionBits
  let exponent := bits / twoTo f.fractionBits % twoTo f.exponentBits
  let negative := bits / twoTo (f.fractionBits + f.exponentBits) % 2 == 1
  let lowest : Int := 1 - f.bias - f.fractionBits
  if exponent + 1 = twoTo f.exponentBits then
    ⟨negative, if fraction = 0 then .infinite else .notANumber⟩
  else if exponent = 0 then
    ⟨negative, .finite fraction lowest false⟩
  else
    ⟨negative, .finite (twoTo f.fractionBits + fraction) (lowest + exponent - 1)
      (fraction == 0 && exponent != 1)⟩

structure Binary32 where
  bits : UInt32
deriving DecidableEq

structure Binary64 where
  bits : UInt64
deriving DecidableEq

namespace Decoded

def isZero (d : Decoded) : Bool :=
  match d.magnitude with
  | .finite 0 _ _ => true
  | _ => false

def isNotANumber (d : Decoded) : Bool := d.magnitude == .notANumber

def isPositive (d : Decoded) : Bool := !d.negative && !d.isZero && !d.isNotANumber

/-- Numerical equality: not-a-number differs from everything, the two zeros are equal. -/
def equal (a b : Decoded) : Bool :=
  !a.isNotANumber && !b.isNotANumber && (a.isZero && b.isZero || a == b)

end Decoded

namespace Binary32

def decode (x : Binary32) : Decoded := BinaryFormat.single.decode x.bits.toNat

end Binary32

namespace Binary64

def decode (x : Binary64) : Decoded := BinaryFormat.double.decode x.bits.toNat

/-- The bits of `mantissa * 2 ^ scale`, rounded to the nearest number with ties to even. The scale
must be large enough for the result to be a normal number. -/
def ofScaled (negative : Bool) (mantissa : Nat) (scale : Int) : Binary64 :=
  let sign := if negative then twoTo 63 else 0
  if mantissa = 0 then ⟨UInt64.ofNat sign⟩
  else
    let top := mantissa.log2
    let significand :=
      if top ≤ 52 then mantissa * twoTo (52 - top)
      else
        let unit := twoTo (top - 52)
        let quotient := mantissa / unit
        let rest := mantissa % unit
        if unit < 2 * rest ∨ unit = 2 * rest ∧ quotient % 2 = 1 then quotient + 1 else quotient
    let exponent := (scale + top + 1023).toNat
    ⟨UInt64.ofNat (sign + exponent * twoTo 52 + (significand - twoTo 52))⟩

def ofInt (n : Int) : Binary64 := ofScaled (n < 0) n.natAbs 0

def ofBinary32 (x : Binary32) : Binary64 :=
  let d := x.decode
  let sign := if d.negative then twoTo 63 else 0
  match d.magnitude with
  | .notANumber => ⟨UInt64.ofNat (sign + 0x7ff8 * twoTo 48)⟩
  | .infinite => ⟨UInt64.ofNat (sign + 0x7ff0 * twoTo 48)⟩
  | .finite mantissa scale _ => ofScaled d.negative mantissa scale

end Binary64

end SourceRecovery
