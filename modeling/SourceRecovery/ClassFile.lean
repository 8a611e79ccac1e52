import SourceRecovery.Type.Signature

/-!
# Class files

The parts of a class file that generation looks at: the methods of a class, and for each method its
signature, access flags, code and local variable table.
-/

namespace SourceRecovery

structure CodeRange where
  start : UInt32
  length : UInt32
deriving DecidableEq

/-- An entry of a local variable table. Entries made up after compilation have no code range. -/
structure LocalVariable where
  range : Option CodeRange
  name : String
  type : JavaType
  index : UInt16
deriving DecidableEq

def LocalVariable.isSynthetic (v : LocalVariable) : Bool := v.range.isNone

namespace LocalVariable

/-- Ascending by slot; entries of one slot keep their order. -/
def sortByIndex (table : List LocalVariable) : List LocalVariable :=
  table.mergeSort fun a b => a.index ≤ b.index

end LocalVariable

namespace AccessFlag

def publicBit : UInt16 := 0x0001
def privateBit : UInt16 := 0x0002
def staticBit : UInt16 := 0x0008
def varargsBit : UInt16 := 0x0080
def syntheticBit : UInt16 := 0x1000

end AccessFlag

structure Method where
  name : String
  signature : Signature
  flags : UInt16
  code : List UInt8 := []
  table : Option (List LocalVariable) := none
deriving DecidableEq

namespace Method

/-- How the names of the methods begin that hold the bodies of lambdas. -/
def lambdaMarker : String := "lambda$"

/-- How the names of the methods begin that open private fields to other classes. -/
def accessorMarker : String := "access$"

def marked (marker name : String) : Bool := marker.toList.isPrefixOf name.toList

def has (m : Method) (flag : UInt16) : Bool := m.flags &&& flag == flag

def isStatic (m : Method) : Bool := m.has AccessFlag.staticBit

def isVarargs (m : Method) : Bool := m.has AccessFlag.varargsBit

def backsLambda (m : Method) : Bool :=
  m.has AccessFlag.privateBit && m.has AccessFlag.syntheticBit && marked lambdaMarker m.name

def locals (m : Method) : List LocalVariable := m.table.getD []

def localAt? (m : Method) (index : UInt16) : Option LocalVariable :=
  m.locals.find? fun v => v.index == index

def withTable (m : Method) (table : List LocalVariable) : Method := { m with table := some table }

def sortTable (m : Method) : Method := { m with table := m.table.map LocalVariable.sortByIndex }

def withCode (m : Method) (code : List UInt8) : Method := { m with code := code }

end Method

structure ClassFile where
  name : ClassName
  flags : UInt16 := AccessFlag.publicBit
  methods : List Method := []
deriving DecidableEq

namespace ClassFile

def type (c : ClassFile) : JavaType := .named c.name

def method? (c : ClassFile) (name : String) : Option Method :=
  c.methods.find? fun m => m.name == name

end ClassFile

end SourceRecovery
