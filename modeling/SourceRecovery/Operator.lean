/-!
# Operators, method handle kinds and affixes

The small enumerations that elements carry.
-/

namespace SourceRecovery

inductive Operator where
  | plus
  | ne
  | minus
  | multiply
  | divide
  | modulo
  | eq
  | not
  | ge
  | lt
  | gt
  | le
  | and
  | or
  | shiftLeft
  | shiftRight
  | shiftRightUnsigned
  | bitAnd
  | bitOr
  | xor
deriving DecidableEq

namespace Operator

def all : List Operator :=
  [plus, ne, minus, multiply, divide, modulo, eq, not, ge, lt, gt, le, and, or, shiftLeft,
   shiftRight, shiftRightUnsigned, bitAnd, bitOr, xor]

def label : Operator → String
  | plus => "PLUS"
  | ne => "NE"
  | minus => "MINUS"
  | multiply => "MULTIPLY"
  | divide => "DIVIDE"
  | modulo => "MODULO"
  | eq => "EQ"
  | not => "NOT"
  | ge => "GE"
  | lt => "LT"
  | gt => "GT"
  | le => "LE"
  | and => "AND"
  | or => "OR"
  | shiftLeft => "LSHIFT"
  | shiftRight => "RSHIFT"
  | shiftRightUnsigned => "UNSIGNED_RSHIFT"
  | bitAnd => "BITWISE_AND"
  | bitOr => "BITWISE_OR"
  | xor => "XOR"

/-- The spelling between two operands. Negation stands before its operand and has none. -/
def symbol? : Operator → Option String
  | plus => some "+"
  | minus => some "-"
  | multiply => some "*"
  | divide => some "/"
  | modulo => some "%"
  | eq => some "=="
  | ne => some "!="
  | ge => some ">="
  | lt => some "<"
  | le => some "<="
  | gt => some ">"
  | and => some "&&"
  | or => some "||"
  | shiftLeft => some "<<"
  | shiftRight => some ">>"
  | shiftRightUnsigned => some ">>>"
  | bitAnd => some "&"
  | bitOr => some "|"
  | xor => some "^"
  | not => none

def inspect : Operator → String
  | plus => "Plus"
  | ne => "Ne"
  | minus => "Minus"
  | multiply => "Multiply"
  | divide => "Divide"
  | modulo => "Modulo"
  | eq => "Eq"
  | not => "Not"
  | ge => "Ge"
  | lt => "Lt"
  | gt => "Gt"
  | le => "Le"
  | and => "And"
  | or => "Or"
  | shiftLeft => "LShift"
  | shiftRight => "RShift"
  | shiftRightUnsigned => "UnsignedRShift"
  | bitAnd => "BitwiseAnd"
  | bitOr => "BitwiseOr"
  | xor => "Xor"

def ofLabel? (text : String) : Option Operator := all.find? fun op => op.label = text

theorem symbol?_eq_none_iff {op : Operator} : op.symbol? = none ↔ op = not := by
  cases op <;> simp [symbol?]

end Operator

/-- The kinds of method handle, by the number a class file gives them. -/
inductive HandleKind where
  | getField
  | getStatic
  | putField
  | putStatic
  | invokeVirtual
  | invokeStatic
  | invokeSpecial
  | newInvokeSpecial
  | invokeInterface
deriving DecidableEq

namespace HandleKind

def all : List HandleKind :=
  [getField, getStatic, putField, putStatic, invokeVirtual, invokeStatic, invokeSpecial,
   newInvokeSpecial, invokeInterface]

def number : HandleKind → Nat
  | getField => 1
  | getStatic => 2
  | putField => 3
  | putStatic => 4
  | invokeVirtual => 5
  | invokeStatic => 6
  | invokeSpecial => 7
  | newInvokeSpecial => 8
  | invokeInterface => 9

def ofNumber? (n : Nat) : Option HandleKind := all.find? fun kind => kind.number = n

def inspect : HandleKind → String
  | getField => "GetField"
  | getStatic => "GetStatic"
  | putField => "PutField"
  | putStatic => "PutStatic"
  | invokeVirtual => "InvokeVirtual"
  | invokeStatic => "InvokeStatic"
  | invokeSpecial => "InvokeSpecial"
  | newInvokeSpecial => "NewInvokeSpecial"
  | invokeInterface => "InvokeInterface"

end HandleKind

/-- On which side of its variable an increment is written. -/
inductive Affix where
  | before
  | after
  | unspecified
deriving DecidableEq

def Affix.inspect : Affix → String
  | before => "Prefix"
  | after => "Postfix"
  | unspecified => "Undefined"

end SourceRecovery
