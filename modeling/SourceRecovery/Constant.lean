import SourceRecovery.Number.Layout
import SourceRecovery.Type.Basic

/-!
# Constants

The value of a constant, its text as a string conversion would give it, and the constant with the
type the code gives it.
-/

namespace SourceRecovery

inductive ConstantValue where
  | null
  | boolean (value : Bool)
  | int (value : Int32)
  | long (value : Int64)
  | float (value : Binary32)
  | double (value : Binary64)
  | char (value : Char)
  | string (value : String)
  | type (value : JavaType)
deriving DecidableEq

namespace ConstantValue

/-- Numbers are written in full from a thousandth up to ten million, always with a fraction. -/
def layout : FloatLayout := ⟨-3, 7, "E", true, "Infinity"⟩

/-- Inspection writes numbers in full over a wider range, and an exponent without a forced
fraction. -/
def inspectionLayout : FloatLayout := ⟨-4, 16, "e", false, "inf"⟩

/-- The type of a constant of which nothing else is known. -/
def naturalType : ConstantValue → JavaType
  | null => .object
  | boolean _ => .boolean
  | int _ => .int
  | long _ => .long
  | float _ => .float
  | double _ => .double
  | char _ => .char
  | string _ => .string
  | type _ => .classLiteral

def number? : ConstantValue → Option Binary64
  | int value => some (.ofInt value.toInt)
  | long value => some (.ofInt value.toInt)
  | float value => some (.ofBinary32 value)
  | double value => some value
  | char value => some (.ofInt value.toNat)
  | _ => none

def int? : ConstantValue → Option Int32
  | int value => some value
  | _ => none

/-- A sign is written before the digits, as a piece of its own. -/
def integerPieces (value : Int) : List String :=
  if value < 0 then ["-", toString value.natAbs] else [toString value]

def pieces : ConstantValue → List String
  | null => ["null"]
  | boolean value => [if value then "true" else "false"]
  | int value => integerPieces value.toInt
  | long value => integerPieces value.toInt
  | float value => layout.pieces value.decode
  | double value => layout.pieces value.decode
  | char value => [value.toString]
  | string value => [value]
  | type value => [value.name]

def text (value : ConstantValue) : String := String.join value.pieces

def inspect : ConstantValue → String
  | null => "Null"
  | boolean value => Inspection.wrapped "Boolean" (if value then "true" else "false")
  | int value => Inspection.wrapped "Int" (toString value.toInt)
  | long value => Inspection.wrapped "Long" (toString value.toInt)
  | float value => Inspection.wrapped "Float" (inspectionLayout.write value.decode)
  | double value => Inspection.wrapped "Double" (inspectionLayout.write value.decode)
  | char value => Inspection.wrapped "Char" (Inspection.char value)
  | string value => Inspection.wrapped "String" (Inspection.text value)
  | type value => Inspection.wrapped "Class" value.inspect

/-- Equality of values. Numbers are compared as numbers: the two zeros are equal, and not-a-number
differs from itself. -/
def equal : ConstantValue → ConstantValue → Bool
  | float a, float b => a.decode.equal b.decode
  | double a, double b => a.decode.equal b.decode
  | a, b => a == b

end ConstantValue

structure Constant where
  value : ConstantValue
  type : JavaType
deriving DecidableEq

namespace Constant

def ofValue (value : ConstantValue) : Constant := ⟨value, value.naturalType⟩

def equal (a b : Constant) : Bool := a.value.equal b.value && a.type == b.type

def inspect (c : Constant) : String :=
  Inspection.record "Constant" [("value", c.value.inspect), ("ty", c.type.inspect)]

end Constant

end SourceRecovery
