import SourceRecovery.Element.Basic

/-!
# Shorthands for building trees

Each shorthand fills in the types that follow from the parts it is given.
-/

namespace SourceRecovery.Element

def ofValue (value : ConstantValue) : Element := .constant (.ofValue value)

def null : Element := ofValue .null

def classConstant (type : JavaType) : Element := ofValue (.type type)

def this (type : JavaType) : Element := .variableReference ⟨"this", type, 0⟩

def fieldOf (target : Element) (type : JavaType) (name : String) : Element :=
  .fieldReference (some target) ⟨target.type, type, name⟩

def staticField (declaring type : JavaType) (name : String) : Element :=
  .fieldReference none ⟨declaring, type, name⟩

/-- Arithmetic has the type of its left operand. -/
def arithmetic (op : Operator) (left right : Element) : Element :=
  .binaryOperator left op right left.type

def relational (op : Operator) (left right : Element) : Element :=
  .binaryOperator left op right .boolean

def not (operand : Element) : Element := .unaryOperator operand .not .boolean

/-- A load has the component type of the array, or `java.lang.Object` for anything else. -/
def loadFrom (array index : Element) : Element :=
  .arrayLoad array index (array.type.component?.getD .object)

def newArrayOf (component : JavaType) (length : Element) : Element :=
  .newArray (.array component) component length []

/-- An array with the given values at the indices from zero on. A length that no `int` holds is
given as the largest one. -/
def newArrayWith (component : JavaType) (values : List Element) : Element :=
  let length :=
    if values.length ≤ 2147483647 then Int32.ofNat values.length else Int32.maxValue
  .newArray (.array component) component (ofValue (.int length))
    (values.zipIdx.map fun item => (UInt32.ofNat item.2, item.1))

def incrementOf (var : Variable) (amount : Element) (affix : Affix) : Element :=
  .increment (.variableReference var) amount affix var.type

def callOn (target : Element) (name : String) (signature : Signature) (arguments : List Element) :
    Element :=
  .methodCall (some target) ⟨target.type, name, signature⟩ arguments

def staticCall (declaring : JavaType) (name : String) (signature : Signature)
    (arguments : List Element) : Element :=
  .methodCall none ⟨declaring, name, signature⟩ arguments

end SourceRecovery.Element

namespace SourceRecovery.LambdaTarget

/-- A lambda that implements `java.lang.Runnable` and captures nothing. -/
def ofBacking (kind : HandleKind) (declaring : JavaType) (name : String) (signature : Signature) :
    LambdaTarget :=
  ⟨kind, .ofName "java.lang.Runnable", "run", ⟨[], .void⟩, declaring, name, signature, []⟩

end SourceRecovery.LambdaTarget
