import SourceRecovery.Number.Shortest

/-!
# Layout of floating point texts

Digits come from `Shortest`; a `FloatLayout` says how they are set: which sizes are written out in
full, how an exponent is marked, and what stands for an infinite number.
-/

namespace SourceRecovery

/-- How floating point numbers are written. Numbers whose leading digit has an exponent from
`plainFrom` up to, not including, `plainBelow` are written in full and always with a fraction. -/
structure FloatLayout where
  plainFrom : Int
  plainBelow : Int
  mark : String
  /-- With an exponent, a single digit is still followed by `.0`. -/
  forceFraction : Bool
  infinity : String

namespace FloatLayout

def zeros (n : Nat) : List Char := List.replicate n '0'

/-- The digits in full. A fraction that has to be forced is a piece of its own. -/
def plain (digits : List Char) (exponent : Int) : List String :=
  if exponent < 0 then [String.ofList ('0' :: '.' :: (zeros ((-exponent).toNat - 1) ++ digits))]
  else
    let whole := exponent.toNat + 1
    if digits.length ≤ whole then
      [String.ofList (digits ++ zeros (whole - digits.length)), ".0"]
    else [String.ofList (digits.take whole ++ '.' :: digits.drop whole)]

/-- The digits with a point after the first, the mark, the exponent. A fraction that has to be
forced goes with the mark. -/
def scientific (layout : FloatLayout) (digits : List Char) (exponent : Int) : List String :=
  match digits.drop 1 with
  | [] =>
    let forced := if layout.forceFraction then ".0" else ""
    [String.ofList (digits.take 1), forced ++ layout.mark, toString exponent]
  | rest => [String.ofList (digits.take 1 ++ '.' :: rest), layout.mark, toString exponent]

def decimal (layout : FloatLayout) (d : Decimal) : List String :=
  if layout.plainFrom ≤ d.exponent ∧ d.exponent < layout.plainBelow then
    plain d.digitChars d.exponent
  else
    layout.scientific d.digitChars d.exponent

/-- The sign goes with the first piece. -/
def signed (negative : Bool) : List String → List String
  | [] => []
  | piece :: rest => (if negative then "-" ++ piece else piece) :: rest

def pieces (layout : FloatLayout) (d : Decoded) : List String :=
  match d.magnitude with
  | .notANumber => ["NaN"]
  | .infinite => signed d.negative [layout.infinity]
  | .finite 0 _ _ => signed d.negative ["0", ".0"]
  | .finite mantissa scale tight =>
    signed d.negative (layout.decimal (Shortest.ofFinite mantissa scale tight))

def write (layout : FloatLayout) (d : Decoded) : String := String.join (layout.pieces d)

end FloatLayout

end SourceRecovery
