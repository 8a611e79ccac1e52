import SourceRecovery.Java.Lambda

/-!
# Built-in rules

What is written for elements that no registered rule claims.
-/

namespace SourceRecovery.Java

/-- Only negation is written as a unary operator. -/
def unaryOperator (ctx : Context) (site : Site) (operand : Element) (op : Operator) : Plan :=
  if op = .not then .text "!" ++ ctx.generate site operand else .fail (.unsupportedOperator op)

/-- A static field after its type, a field of `this` alone, any other field after its object. -/
def fieldReference (ctx : Context) (site : Site) (target : Option Element) (field : Field) : Plan :=
  (match target with
    | none => .text field.declaring.unqualifiedName ++ .text "."
    | some object => if object.isThis then .done else ctx.generate site object ++ .text ".") ++
    .text field.name

def variableAssignment (ctx : Context) (site : Site) (var : Variable) (value : Element) : Plan :=
  .text var.type.simpleName ++ .text " " ++ .text var.name ++ .text " = " ++
    ctx.generate site value

def newInstance (ctx : Context) (site : Site) (type : JavaType) (arguments : List Element) : Plan :=
  .text "new " ++ .text type.unqualifiedName ++ .text "(" ++ ctx.generateList site arguments ++
    .text ")"

def compare (ctx : Context) (site : Site) (left right : Element) : Plan :=
  ctx.generate site left ++ .text " ::= " ++ ctx.generate site right

def branch (ctx : Context) (site : Site) (left : Element) (op : Operator) (right : Element)
    (pc : UInt32) : Plan :=
  match op.symbol? with
  | none => .fail (.unsupportedOperator op)
  | some symbol =>
    ctx.generate site left ++ .text " " ++ .text symbol ++ .text " " ++ ctx.generate site right ++
      .text " ? goto " ++ .text (toString pc)

def goto (pc : UInt32) : Plan := .text "goto " ++ .text (toString pc)

def builtin : Rule := fun ctx site =>
  match site.element with
  | .unaryOperator operand op _ => unaryOperator ctx site operand op
  | .fieldReference target field => fieldReference ctx site target field
  | .variableAssignment var value => variableAssignment ctx site var value
  | .lambda receiver target => lambda ctx site receiver target
  | .new type _ arguments => newInstance ctx site type arguments
  | .compare left right => compare ctx site left right
  | .branch left op right pc => branch ctx site left op right pc
  | .goto pc => goto pc
  | e => unexpected e

end SourceRecovery.Java
