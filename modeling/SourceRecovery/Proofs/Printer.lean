import SourceRecovery.Java.Calls
import SourceRecovery.Java.Lambda
import SourceRecovery.Engine.Run

/-! # A direct printer

Java text straight from the element: one clause for each kind, by recursion on the tree. There is no
catalog, no selection and no plan here. Bodies of lambdas are decompiled on the way and are no part
of the tree, so how they are printed is a parameter; `printNested` says how deep they may nest.
-/

namespace SourceRecovery.Java

/-- Writes to a sink and may fail; what was written before stays in the sink. -/
abbrev Printer := ExceptT GenerationError (StateT Sink Option) Unit

namespace Printer

def write (piece : String) : Printer := fun sink =>
  match sink.put piece with
  | (sink, true) => some (.ok (), sink)
  | (sink, false) => some (.error .write, sink)

def writeAll : List String → Printer
  | [] => pure ()
  | piece :: rest => do
      write piece
      writeAll rest

def unsupported (description : String) : Printer := throw (.unsupportedElement description)

def indent : Nat → Printer
  | 0 => pure ()
  | level + 1 => do
      write "   "
      indent level

def separated : List Printer → Printer
  | [] => pure ()
  | [p] => p
  | p :: rest => do
      p
      write ", "
      separated rest

def literal (ctx : Context) (k : Constant) : Printer :=
  if k.type.isClass "java.lang.String" then do
    write "\""
    writeAll k.value.pieces
    write "\""
  else if k.type = .long then do
    writeAll k.value.pieces
    write "L"
  else if k.type = .float then do
    writeAll k.value.pieces
    write "f"
  else if k.type.isClass "java.lang.Class" then
    match k.value with
    | .type t => do
        write (ctx.typeName t)
        write ".class"
    | _ => unsupported k.inspect
  else writeAll k.value.pieces

/-! ## Parameters of a lambda -/

def parameterName (file : ClassFile) (target : LambdaTarget) (backing : Method) (position : Nat) :
    Printer :=
  match backing.locals[firstParameter target + position]? with
  | some entry => write entry.name
  | none =>
      throw (.noLocalVariable (firstParameter target + position) file.name.text backing.name)

def parameters (file : ClassFile) (target : LambdaTarget) (backing : Method) : Printer :=
  match backing.signature.parameters.length with
  | 0 => write "() -> "
  | 1 => do
      parameterName file target backing 0
      write " -> "
  | count => do
      write "("
      separated ((List.range count).map (parameterName file target backing))
      write ") -> "

/-! ## Bodies of lambdas -/

def statements (inner : Element → Printer) (level : Nat) : List Element → Printer
  | [] => pure ()
  | statement :: rest => do
      indent level
      inner statement
      write ";\n"
      statements inner level rest

/-- A lambda with this body, whose parts are printed with `inner`. -/
def lambdaWith (file : ClassFile) (inner : Context → Element → Printer) (ctx : Context)
    (target : LambdaTarget) (backing : Method) : List Element → Printer
  | [.returnValue value] => do
      parameters file target backing
      inner ctx value
  | [.return] => do
      parameters file target backing
      write "\x7b\x7d"
  | [statement] => inner ctx statement
  | [statement, .return] => do
      write "() -> "
      inner ctx statement
  | body => do
      write "() -> \x7b\n"
      statements (inner ctx.deeper) (ctx.level + 1) (withoutFinalReturn body)

def inlined (file : ClassFile) (inner : Context → Element → Printer) (ctx : Context)
    (hasReceiver : Bool) (target : LambdaTarget) : Printer :=
  match file.method? target.name with
  | none => throw (.methodNotFound .lambdaBacking file.name.text target.name)
  | some declared =>
      match ctx.decompile (withCaptured declared hasReceiver target.captured) with
      | .error cause => throw (.decompile declared.name file.name.text cause)
      | .ok body =>
          lambdaWith file inner ctx target (withCaptured declared hasReceiver target.captured) body

/-! ## Calls -/

def invocation (name : String) (arguments : List Printer) : Printer := do
  write name
  write "("
  separated arguments
  write ")"

def openedField (ctx : Context) (call : Call) : Except GenerationError String := do
  let owner ← ctx.classFile call.callee.declaring
  let some method := owner.method? call.callee.name
    | throw (.methodNotFound .accessor call.callee.declaring.name call.callee.name)
  match ctx.decompile method with
  | .error cause => throw (.decompile method.name owner.name.text cause)
  | .ok body =>
      match accessedField call body with
      | .error description => throw (.unsupportedElement description)
      | .ok field => return field

/-! ## Elements -/

variable (file : ClassFile) (inner : Context → Element → Printer) (ctx : Context)

mutual

def print : Element → Printer
  | .return => write "return"
  | .returnValue value => do
      write "return "
      print value
  | .constant k => literal ctx k
  | .variableReference var => write var.name
  | .variableAssignment var value => do
      write var.type.simpleName
      write " "
      write var.name
      write " = "
      print value
  | .fieldReference none field => do
      write field.declaring.unqualifiedName
      write "."
      write field.name
  | .fieldReference (some object) field =>
      if object.isThis then write field.name
      else do
        print object
        write "."
        write field.name
  | .fieldAssignment target field value =>
      unsupported (Element.fieldAssignment target field value).inspect
  | .binaryOperator left op right _ =>
      match op.symbol? with
      | none => throw (.unsupportedOperator op)
      | some symbol => do
          print left
          write " "
          write symbol
          write " "
          print right
  | .unaryOperator operand op _ =>
      if op = .not then do
        write "!"
        print operand
      else throw (.unsupportedOperator op)
  | .compare left right => do
      print left
      write " ::= "
      print right
  | .branch left op right pc =>
      match op.symbol? with
      | none => throw (.unsupportedOperator op)
      | some symbol => do
          print left
          write " "
          write symbol
          write " "
          print right
          write " ? goto "
          write (toString pc)
  | .goto pc => do
      write "goto "
      write (toString pc)
  | .cast value type => do
      write "("
      write (ctx.typeName type)
      write ")"
      print value
  | .arrayLoad array index _ => do
      print array
      write "["
      print index
      write "]"
  | .arrayStore array index value => do
      print array
      write "["
      print index
      write "] = "
      print value
  | .newArray _ component length [] => do
      write "new "
      write (ctx.typeName component)
      write "["
      print length
      write "]"
  | .newArray _ component _ (first :: more) => do
      write "new "
      write (ctx.typeName component)
      write "[] \x7b "
      separated (printValues (first :: more))
      write " \x7d"
  | .new type _ arguments => do
      write "new "
      write type.unqualifiedName
      write "("
      separated (printEach arguments)
      write ")"
  | .allocate type => do
      write "new "
      write (ctx.typeName type)
      write "<uninitialized>"
  | .increment var amount affix _ =>
      match stepOperator? amount, affix with
      | none, _ => unsupported amount.inspect
      | some op, .before => do
          write op
          print var
      | some op, .after => do
          print var
          write op
      | some _, .unspecified => print var
  | .lambda receiver target =>
      match lambdaForm target with
      | .methodReference => do
          printQualifier target receiver
          write "::"
          write target.name
      | .constructorReference => do
          write target.declaring.unqualifiedName
          write "::new"
      | .inlined => inlined file inner ctx receiver.isSome target
  -- Calls are told apart in this order.
  | .methodCall target callee arguments =>
      if boxesBoolean ⟨target, callee, arguments⟩ then
        printBoolean (Call.mk target callee arguments).inspect arguments
      else if boxesPrimitive ⟨target, callee, arguments⟩ then
        printBoxed (Call.mk target callee arguments).inspect arguments
      else if callsDsl ctx ⟨target, callee, arguments⟩ then
        invocation callee.name
          (printArguments (takesVarargs ctx ⟨target, callee, arguments⟩) arguments)
      else if callsAccessor ⟨target, callee, arguments⟩ then
        match openedField ctx ⟨target, callee, arguments⟩ with
        | .error e => throw e
        | .ok field => printAccess field arguments
      else do
        printObject callee.declaring target
        invocation callee.name
          (printArguments (takesVarargs ctx ⟨target, callee, arguments⟩) arguments)

def printEach : List Element → List Printer
  | [] => []
  | e :: rest => print e :: printEach rest

def printValues : List (UInt32 × Element) → List Printer
  | [] => []
  | (_, e) :: rest => print e :: printValues rest

/-- The arguments of a call. If the method takes variable arguments, those of a trailing array stand
for themselves. -/
def printArguments (varargs : Bool) : List Element → List Printer
  | [] => []
  | [.newArray type component length initializers] =>
      if varargs && (spreadable? (.newArray type component length initializers)).isSome then
        printValues initializers
      else [print (.newArray type component length initializers)]
  | e :: rest => print e :: printArguments varargs rest

/-- What stands before `::`. -/
def printQualifier (target : LambdaTarget) : Option Element → Printer
  | none => write target.declaring.unqualifiedName
  | some object =>
      if target.kind = .invokeStatic then write target.declaring.unqualifiedName
      else print object

/-- What stands before the name of a called method: its object, or its type if it is static. -/
def printObject (declaring : JavaType) : Option Element → Printer
  | some object =>
      if ctx.omitsThis && object.isThis then pure ()
      else do
        print object
        write "."
  | none => do
      write (ctx.typeName declaring)
      write "."

def printBoolean (description : String) : List Element → Printer
  | [] => unsupported description
  | .constant k :: _ =>
      if k.type = .int then
        match k.value.int? with
        | some value => write (if value = 0 then "false" else "true")
        | none => unsupported k.inspect
      else print (.constant k)
  | e :: _ => print e

def printBoxed (description : String) : List Element → Printer
  | [] => unsupported description
  | e :: _ => print e

/-- The object, the field and, for a write, the value. -/
def printAccess (field : String) : List Element → Printer
  | [] => pure ()
  | [object] => do
      print object
      write "."
      write field
  | object :: value :: _ => do
      print object
      write "."
      write field
      write " = "
      print value

end

/-- Prints with bodies of lambdas inside one another at most `nesting` times. There is no result if
they nest deeper. -/
def printNested (file : ClassFile) : Nat → Context → Element → Printer
  | 0 => print file fun _ _ _ => none
  | nesting + 1 => print file (printNested file nesting)

end Printer

end SourceRecovery.Java
