import SourceRecovery.Constant
import SourceRecovery.Operator
import SourceRecovery.Type.Signature

/-!
# Elements

The nodes of a decompiled tree. What a node holds besides its sub-elements is kept in small records
of its own, so that the recursion of the type is in plain sight. `Element.children` lists the
sub-elements in source order; every traversal follows it.
-/

namespace SourceRecovery

inductive Kind where
  | return
  | returnValue
  | constant
  | variableReference
  | variableAssignment
  | fieldReference
  | fieldAssignment
  | binaryOperator
  | unaryOperator
  | compare
  | branch
  | goto
  | cast
  | arrayLoad
  | arrayStore
  | newArray
  | new
  | allocate
  | increment
  | lambda
  | methodCall
deriving DecidableEq

namespace Kind

def all : List Kind :=
  [.return, returnValue, constant, variableReference, variableAssignment, fieldReference,
   fieldAssignment, binaryOperator, unaryOperator, compare, branch, goto, cast, arrayLoad,
   arrayStore, newArray, new, allocate, increment, lambda, methodCall]

def label : Kind → String
  | .return => "RETURN"
  | returnValue => "RETURN_VALUE"
  | constant => "CONSTANT"
  | variableReference => "VARIABLE_REFERENCE"
  | variableAssignment => "VARIABLE_ASSIGNMENT"
  | fieldReference => "FIELD_REFERENCE"
  | fieldAssignment => "FIELD_ASSIGNMENT"
  | binaryOperator => "BINARY_OPERATOR"
  | unaryOperator => "UNARY_OPERATOR"
  | compare => "COMPARE"
  | branch => "BRANCH"
  | goto => "GOTO"
  | cast => "CAST"
  | arrayLoad => "ARRAY_LOAD"
  | arrayStore => "ARRAY_STORE"
  | newArray => "NEW_ARRAY"
  | new => "NEW"
  | allocate => "ALLOCATE"
  | increment => "INCREMENT"
  | lambda => "LAMBDA"
  | methodCall => "METHOD_CALL"

def inspect : Kind → String
  | .return => "Return"
  | returnValue => "ReturnValue"
  | constant => "Constant"
  | variableReference => "VariableReference"
  | variableAssignment => "VariableAssignment"
  | fieldReference => "FieldReference"
  | fieldAssignment => "FieldAssignment"
  | binaryOperator => "BinaryOperator"
  | unaryOperator => "UnaryOperator"
  | compare => "Compare"
  | branch => "Branch"
  | goto => "Goto"
  | cast => "Cast"
  | arrayLoad => "ArrayLoad"
  | arrayStore => "ArrayStore"
  | newArray => "NewArray"
  | new => "New"
  | allocate => "Allocate"
  | increment => "Increment"
  | lambda => "Lambda"
  | methodCall => "MethodCall"

def ofLabel? (text : String) : Option Kind := all.find? fun kind => kind.label = text

end Kind

structure Variable where
  name : String
  type : JavaType
  index : UInt16
deriving DecidableEq

structure Field where
  declaring : JavaType
  type : JavaType
  name : String
deriving DecidableEq

structure Callee where
  declaring : JavaType
  name : String
  signature : Signature
deriving DecidableEq

/-- What a lambda stands for: the method that backs it, the interface it implements, and the local
variables it captures in order. -/
structure LambdaTarget where
  kind : HandleKind
  interface : JavaType
  interfaceMethod : String
  interfaceSignature : Signature
  declaring : JavaType
  name : String
  signature : Signature
  captured : List Variable
deriving DecidableEq

/-- A node of a decompiled tree. Static fields and static calls have no target. -/
inductive Element where
  | return
  | returnValue (value : Element)
  | constant (constant : Constant)
  | variableReference (var : Variable)
  | variableAssignment (var : Variable) (value : Element)
  | fieldReference (target : Option Element) (field : Field)
  | fieldAssignment (target : Option Element) (field : Field) (value : Element)
  | binaryOperator (left : Element) (op : Operator) (right : Element) (type : JavaType)
  | unaryOperator (operand : Element) (op : Operator) (type : JavaType)
  | compare (left right : Element)
  | branch (left : Element) (op : Operator) (right : Element) (pc : UInt32)
  | goto (pc : UInt32)
  | cast (value : Element) (type : JavaType)
  | arrayLoad (array index : Element) (type : JavaType)
  | arrayStore (array index value : Element)
  | newArray (type component : JavaType) (length : Element)
    (initializers : List (UInt32 × Element))
  | new (type : JavaType) (signature : Signature) (arguments : List Element)
  | allocate (type : JavaType)
  | increment (var amount : Element) (affix : Affix) (type : JavaType)
  | lambda (receiver : Option Element) (target : LambdaTarget)
  | methodCall (target : Option Element) (callee : Callee) (arguments : List Element)

namespace Element

def kind : Element → Kind
  | .return => .return
  | returnValue .. => .returnValue
  | constant .. => .constant
  | variableReference .. => .variableReference
  | variableAssignment .. => .variableAssignment
  | fieldReference .. => .fieldReference
  | fieldAssignment .. => .fieldAssignment
  | binaryOperator .. => .binaryOperator
  | unaryOperator .. => .unaryOperator
  | compare .. => .compare
  | branch .. => .branch
  | goto .. => .goto
  | cast .. => .cast
  | arrayLoad .. => .arrayLoad
  | arrayStore .. => .arrayStore
  | newArray .. => .newArray
  | new .. => .new
  | allocate .. => .allocate
  | increment .. => .increment
  | lambda .. => .lambda
  | methodCall .. => .methodCall

/-- The static type. Pure statements have type `void`. -/
def type : Element → JavaType
  | returnValue value => value.type
  | constant c => c.type
  | variableReference var => var.type
  | fieldReference _ field => field.type
  | binaryOperator _ _ _ type => type
  | unaryOperator _ _ type => type
  | compare .. => .int
  | cast _ type => type
  | arrayLoad _ _ type => type
  | newArray type .. => type
  | new type .. => type
  | allocate type => type
  | increment _ _ _ type => type
  | lambda _ target => target.interface
  | methodCall _ callee _ => callee.signature.result
  | .return | variableAssignment .. | fieldAssignment .. | branch .. | goto .. | arrayStore .. =>
    .void

/-- The direct sub-elements in source order. Captured variables of a lambda are no sub-elements. -/
def children : Element → List Element
  | .return | constant .. | variableReference .. | goto .. | allocate .. => []
  | returnValue value => [value]
  | variableAssignment _ value => [value]
  | fieldReference target _ => target.toList
  | fieldAssignment target _ value => target.toList ++ [value]
  | binaryOperator left _ right _ => [left, right]
  | unaryOperator operand _ _ => [operand]
  | compare left right => [left, right]
  | branch left _ right _ => [left, right]
  | cast value _ => [value]
  | arrayLoad array index _ => [array, index]
  | arrayStore array index value => [array, index, value]
  | newArray _ _ length initializers => length :: initializers.map Prod.snd
  | new _ _ arguments => arguments
  | increment var amount _ _ => [var, amount]
  | lambda receiver _ => receiver.toList
  | methodCall target _ arguments => target.toList ++ arguments

def isThis : Element → Bool
  | variableReference var => var.name == "this"
  | _ => false

def constantValue? : Element → Option ConstantValue
  | constant c => some c.value
  | _ => none

end Element

structure Call where
  target : Option Element
  callee : Callee
  arguments : List Element

namespace Call

def toElement (c : Call) : Element := .methodCall c.target c.callee c.arguments

def isStatic (c : Call) : Bool := c.target.isNone

end Call

def Element.call? : Element → Option Call
  | .methodCall target callee arguments => some ⟨target, callee, arguments⟩
  | _ => none

end SourceRecovery
