import SourceRecovery.Element.Walk
import SourceRecovery.Java.Rules

/-!
# Lambdas and method references

A lambda refers to an ordinary method, and is then written as a method reference, or to a method
that the compiler made for its body. Such a method is decompiled, with the captured variables added
to its local variable table, and its body is written in place.
-/

namespace SourceRecovery.Java

inductive LambdaForm where
  | methodReference
  | constructorReference
  | inlined
deriving DecidableEq

/-- The form follows the kind of the handle; for special and static methods also the name of the
method, which tells a lambda body from a method of the program. -/
def lambdaForm (target : LambdaTarget) : LambdaForm :=
  match target.kind with
  | .invokeVirtual | .invokeInterface => .methodReference
  | .invokeSpecial | .invokeStatic =>
    if Method.marked Method.lambdaMarker target.name then .inlined else .methodReference
  | .newInvokeSpecial => .constructorReference
  | .getField | .getStatic | .putField | .putStatic => .inlined

/-- `receiver::name`, or `Type::name` if there is no receiver or the method is static. -/
def methodReference (ctx : Context) (site : Site) (receiver : Option Element)
    (target : LambdaTarget) : Plan :=
  (match receiver with
    | some object =>
      if target.kind = .invokeStatic then .text target.declaring.unqualifiedName
      else ctx.generate site object
    | none => .text target.declaring.unqualifiedName) ++
    .text "::" ++ .text target.name

/-! ## Captured variables -/

/-- Table entries for captured variables, which a backing method takes as its first arguments, in
the slots from `first` on. -/
def capturedEntries (first : Nat) (captured : List Variable) : List LocalVariable :=
  captured.zipIdx.map fun (var, position) =>
    ⟨none, var.name, var.type, UInt16.ofNat (first + position)⟩

/-- The backing method with entries for the captured variables, sorted by slot. The receiver, if
there is one, takes the first slot. Without captured variables the method is left as it is. -/
def withCaptured (method : Method) (hasReceiver : Bool) (captured : List Variable) : Method :=
  if captured.isEmpty then method
  else
    let first := if hasReceiver then 1 else 0
    method.withTable (LocalVariable.sortByIndex (method.locals ++ capturedEntries first captured))

/-! ## Parameters -/

/-- The position in the table of the first parameter: special methods have `this` before it. -/
def firstParameter (target : LambdaTarget) : Nat := if target.kind = .invokeSpecial then 1 else 0

def parameterName (site : Site) (target : LambdaTarget) (backing : Method) (position : Nat) :
    Plan :=
  let index := firstParameter target + position
  match backing.locals[index]? with
  | some entry => .text entry.name
  | none => .fail (.noLocalVariable index site.classFile.name.text backing.name)

/-- `() -> `, `x -> ` or `(x, y) -> `. -/
def parameters (site : Site) (target : LambdaTarget) (backing : Method) : Plan :=
  match backing.signature.parameters.length with
  | 0 => .text "() -> "
  | 1 => parameterName site target backing 0 ++ .text " -> "
  | count =>
    .text "(" ++
      .separated ", " ((List.range count).map (parameterName site target backing)) ++ .text ") -> "

/-! ## Bodies -/

def withoutFinalReturn (body : List Element) : List Element :=
  match body.getLast? with
  | some .return => body.dropLast
  | _ => body

/-- Statements on lines of their own, one level further in. -/
def block (ctx : Context) (site : Site) (statements : List Element) : Plan :=
  .text "() -> \x7b\n" ++
    .concat (statements.map fun statement =>
      ctx.deeper.indentation ++ ctx.deeper.generate site statement ++ .text ";\n")

def inlinedBody (ctx : Context) (site : Site) (target : LambdaTarget) (backing : Method) :
    List Element → Plan
  | [.returnValue value] => parameters site target backing ++ ctx.generate site value
  | [.return] => parameters site target backing ++ .text "\x7b\x7d"
  | [statement] => ctx.generate site statement
  | [statement, .return] => .text "() -> " ++ ctx.generate site statement
  | body => block ctx site (withoutFinalReturn body)

def inlinedLambda (ctx : Context) (site : Site) (receiver : Option Element)
    (target : LambdaTarget) : Plan :=
  match site.classFile.method? target.name with
  | none => .fail (.methodNotFound .lambdaBacking site.classFile.name.text target.name)
  | some declared =>
    let backing := withCaptured declared receiver.isSome target.captured
    .mark (.decompile backing) <|
      match ctx.decompile backing with
      | .error cause => .fail (.decompile backing.name site.classFile.name.text cause)
      | .ok body =>
        let nodes := (Census.ofTrees body).total
        .mark (.inlining backing.name body.length nodes target.captured.length)
          (inlinedBody ctx site target backing body)

def lambda (ctx : Context) (site : Site) (receiver : Option Element) (target : LambdaTarget) :
    Plan :=
  match lambdaForm target with
  | .methodReference => methodReference ctx site receiver target
  | .constructorReference => .text target.declaring.unqualifiedName ++ .text "::new"
  | .inlined => inlinedLambda ctx site receiver target

def lambdaRule : Rule := fun ctx site =>
  match site.element with
  | .lambda receiver target => lambda ctx site receiver target
  | _ => .fail (.precondition "not a lambda")

end SourceRecovery.Java
