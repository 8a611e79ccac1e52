import SourceRecovery.Element.Inspect
import SourceRecovery.Engine.Catalog

/-!
# Java rules for statements, expressions and arrays

Each rule renders one kind of element. Given any other element it fails: there is no text for it.
-/

namespace SourceRecovery.Java

def unexpected (element : Element) : Plan := .unsupported element.inspect

def returnRule : Rule := fun _ _ => .text "return"

/-- The literal of a constant follows its type and not its value: strings are quoted, `long` and
`float` get their suffix, and a class is a class literal. -/
def literal (ctx : Context) (c : Constant) : Plan :=
  if c.type.isClass "java.lang.String" then
    .text "\"" ++ .texts c.value.pieces ++ .text "\""
  else if c.type = .long then .texts c.value.pieces ++ .text "L"
  else if c.type = .float then .texts c.value.pieces ++ .text "f"
  else if c.type.isClass "java.lang.Class" then
    match c.value with
    | .type t => .text (ctx.typeName t) ++ .text ".class"
    | _ => .unsupported c.inspect
  else .texts c.value.pieces

def constant : Rule := fun ctx site =>
  match site.element with
  | .constant c => literal ctx c
  | e => unexpected e

def returnValue : Rule := fun ctx site =>
  match site.element with
  | .returnValue value => .text "return " ++ ctx.generate site value
  | e => unexpected e

def variableReference : Rule := fun _ site =>
  match site.element with
  | .variableReference var => .text var.name
  | e => unexpected e

def arrayStore : Rule := fun ctx site =>
  match site.element with
  | .arrayStore array index value =>
    ctx.generate site array ++ .text "[" ++ ctx.generate site index ++ .text "] = " ++
      ctx.generate site value
  | e => unexpected e

def cast : Rule := fun ctx site =>
  match site.element with
  | .cast value type =>
    .text "(" ++ .text (ctx.typeName type) ++ .text ")" ++ ctx.generate site value
  | e => unexpected e

def arrayLoad : Rule := fun ctx site =>
  match site.element with
  | .arrayLoad array index _ =>
    ctx.generate site array ++ .text "[" ++ ctx.generate site index ++ .text "]"
  | e => unexpected e

/-- An object whose constructor has not run. -/
def allocate : Rule := fun ctx site =>
  match site.element with
  | .allocate type => .text "new " ++ .text (ctx.typeName type) ++ .text "<uninitialized>"
  | e => unexpected e

/-- The operator of an increment goes up for a positive amount and down for any other number. -/
def stepOperator? (amount : Element) : Option String :=
  amount.constantValue?.bind ConstantValue.number? |>.map fun n =>
    if n.decode.isPositive then "++" else "--"

/-- Without an affix only the variable is written. -/
def increment : Rule := fun ctx site =>
  match site.element with
  | .increment var amount affix _ =>
    match stepOperator? amount with
    | none => unexpected amount
    | some op =>
      match affix with
      | .before => .text op ++ ctx.generate site var
      | .after => ctx.generate site var ++ .text op
      | .unspecified => ctx.generate site var
  | e => unexpected e

/-- No parentheses are written, whatever the operands are. -/
def binaryOperator : Rule := fun ctx site =>
  match site.element with
  | .binaryOperator left op right _ =>
    match op.symbol? with
    | none => .fail (.unsupportedOperator op)
    | some symbol =>
      ctx.generate site left ++ .text " " ++ .text symbol ++ .text " " ++ ctx.generate site right
  | e => unexpected e

def uninitializedArray : Rule := fun ctx site =>
  match site.element with
  | .newArray _ component length _ =>
    .text "new " ++ .text (ctx.typeName component) ++ .text "[" ++ ctx.generate site length ++
      .text "]"
  | e => unexpected e

def initializedArray : Rule := fun ctx site =>
  match site.element with
  | .newArray _ component _ initializers =>
    .text "new " ++ .text (ctx.typeName component) ++ .text "[] \x7b " ++
      ctx.generateList site (initializers.map Prod.snd) ++ .text " \x7d"
  | e => unexpected e

def newArraySelector (initialized : Bool) : Selector :=
  (Selector.ofKind .newArray).filter <| .silent fun _ site =>
    match site.element with
    | .newArray _ _ _ initializers => initializers.isEmpty != initialized
    | _ => false

def uninitializedArraySelector : Selector := newArraySelector false

def initializedArraySelector : Selector := newArraySelector true

end SourceRecovery.Java
