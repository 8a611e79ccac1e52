import SourceRecovery.Element.Basic

/-!
# Inspection text of elements

An element is shown as its kind around the record of its parts. Failures that concern only the parts
of a constant or a call show the record alone.
-/

namespace SourceRecovery

open Inspection (record wrapped)

def Variable.inspect (var : Variable) : String :=
  record "LocalVariableReference"
    [("name", Inspection.text var.name), ("ty", var.type.inspect), ("index", toString var.index)]

/-- The record of a field access, given the inspection text of its target. -/
def Field.inspectWith (field : Field) (target : String) : String :=
  record "FieldReference"
    [("target_instance", target), ("declaring_type", field.declaring.inspect),
     ("field_type", field.type.inspect), ("field_name", Inspection.text field.name)]

def Callee.inspectWith (callee : Callee) (target arguments : String) : String :=
  record "MethodCall"
    [("target_type", callee.declaring.inspect), ("method_name", Inspection.text callee.name),
     ("signature", callee.signature.inspect), ("target_instance", target),
     ("parameters", arguments)]

def LambdaTarget.inspectWith (target : LambdaTarget) (receiver : String) : String :=
  record "Lambda"
    [("receiver", receiver), ("reference_kind", target.kind.inspect),
     ("functional_interface", target.interface.inspect),
     ("functional_method_name", Inspection.text target.interfaceMethod),
     ("interface_method_signature", target.interfaceSignature.inspect),
     ("declaring_class", target.declaring.inspect),
     ("backing_method_name", Inspection.text target.name),
     ("backing_method_signature", target.signature.inspect),
     ("enclosed_variables", Inspection.list (target.captured.map Variable.inspect))]

namespace Element

mutual

def inspect : Element → String
  | .return => wrapped "Return" "Return"
  | returnValue value => wrapped "ReturnValue" (record "ReturnValue" [("value", value.inspect)])
  | constant c => wrapped "Constant" c.inspect
  | variableReference var => wrapped "VariableReference" var.inspect
  | variableAssignment var value =>
    wrapped "VariableAssignment" <| record "VariableAssignment"
      [("value", value.inspect), ("variable_index", toString var.index),
       ("variable_name", Inspection.text var.name), ("variable_type", var.type.inspect)]
  | fieldReference target field =>
    wrapped "FieldReference" (field.inspectWith (inspectOption target))
  | fieldAssignment target field value =>
    wrapped "FieldAssignment" <| record "FieldAssignment"
      [("field_reference", field.inspectWith (inspectOption target)), ("value", value.inspect)]
  | binaryOperator left op right type =>
    wrapped "BinaryOperator" <| record "BinaryOperator"
      [("left", left.inspect), ("operator", op.inspect), ("right", right.inspect),
       ("ty", type.inspect)]
  | unaryOperator operand op type =>
    wrapped "UnaryOperator" <| record "UnaryOperator"
      [("operand", operand.inspect), ("operator", op.inspect), ("ty", type.inspect)]
  | compare left right =>
    wrapped "Compare" (record "Compare" [("left", left.inspect), ("right", right.inspect)])
  | branch left op right pc =>
    wrapped "Branch" <| record "Branch"
      [("left", left.inspect), ("operator", op.inspect), ("right", right.inspect),
       ("target_pc", toString pc)]
  | goto pc => wrapped "Goto" (record "Goto" [("target_pc", toString pc)])
  | cast value type =>
    wrapped "Cast" (record "TypeCast" [("value", value.inspect), ("ty", type.inspect)])
  | arrayLoad array index type =>
    wrapped "ArrayLoad" <| record "ArrayLoad"
      [("array", array.inspect), ("index", index.inspect), ("ty", type.inspect)]
  | arrayStore array index value =>
    wrapped "ArrayStore" <| record "ArrayStore"
      [("array", array.inspect), ("index", index.inspect), ("value", value.inspect)]
  | newArray type component length initializers =>
    wrapped "NewArray" <| record "NewArray"
      [("ty", type.inspect), ("component_type", component.inspect), ("length", length.inspect),
       ("initializers", Inspection.list (inspectInitializers initializers))]
  | new type signature arguments =>
    wrapped "New" <| record "NewInstance"
      [("ty", type.inspect), ("constructor_signature", signature.inspect),
       ("parameters", Inspection.list (inspectList arguments))]
  | allocate type => wrapped "Allocate" (record "InstanceAllocation" [("ty", type.inspect)])
  | increment var amount affix type =>
    wrapped "Increment" <| record "Increment"
      [("local_variable", var.inspect), ("value", amount.inspect), ("affix", affix.inspect),
       ("ty", type.inspect)]
  | lambda receiver target => wrapped "Lambda" (target.inspectWith (inspectOption receiver))
  | methodCall target callee arguments =>
    wrapped "MethodCall" <|
      callee.inspectWith (inspectOption target) (Inspection.list (inspectList arguments))

def inspectOption : Option Element → String
  | none => Inspection.option none
  | some e => Inspection.option (some e.inspect)

def inspectList : List Element → List String
  | [] => []
  | e :: rest => e.inspect :: inspectList rest

def inspectInitializers : List (UInt32 × Element) → List String
  | [] => []
  | (index, e) :: rest =>
    record "ArrayInitializer" [("index", toString index), ("value", e.inspect)] ::
      inspectInitializers rest

end

end Element

/-- The record of a call without its kind. -/
def Call.inspect (c : Call) : String :=
  c.callee.inspectWith (Element.inspectOption c.target)
    (Inspection.list (Element.inspectList c.arguments))

end SourceRecovery
