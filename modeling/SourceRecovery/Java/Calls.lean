import SourceRecovery.Java.Rules

/-!
# Java rules for method calls

Boxing calls and field accessors give way to what they stand for. Other calls are written with their
target, their type or nothing in front, and the array that a compiler builds for variable arguments
is spread out again.
-/

namespace SourceRecovery.Java

/-! ## Arguments -/

def takesVarargs (ctx : Context) (call : Call) : Bool :=
  match ctx.metadata? call.callee.declaring with
  | some metadata => (metadata.method? call.callee.name call.callee.signature).any (·.varargs)
  | none => false

/-- The values of an array that may have been built for variable arguments: one with initializers,
or one of constant length zero. -/
def spreadable? : Element → Option (List Element)
  | .newArray _ _ length initializers =>
    if !initializers.isEmpty || length.constantValue?.bind ConstantValue.int? == some 0 then
      some (initializers.map Prod.snd)
    else none
  | _ => none

/-- The arguments as they are written, with a trailing array of variable arguments spread out. -/
def writtenArguments (ctx : Context) (call : Call) : List Element :=
  match call.arguments.getLast?.bind spreadable? with
  | some values =>
    if takesVarargs ctx call then call.arguments.dropLast ++ values else call.arguments
  | none => call.arguments

def invocation (ctx : Context) (site : Site) (call : Call) : Plan :=
  .text call.callee.name ++ .text "(" ++ ctx.generateList site (writtenArguments ctx call) ++
    .text ")"

/-! ## Rules and their selectors -/

def onCall (plan : Context → Site → Call → Plan) : Rule := fun ctx site =>
  match site.element.call? with
  | some call => plan ctx site call
  | none => unexpected site.element

def callSelector (test : Context → Call → Bool) : Selector :=
  (Selector.ofKind .methodCall).filter (.onCall test)

/-- The boxing of a boolean, told by the descriptor of the called method. -/
def boxesBoolean (call : Call) : Bool :=
  call.isStatic && call.callee.declaring.isClass "java.lang.Boolean" &&
    call.callee.name == "valueOf" &&
    call.callee.signature.descriptor == "(Z)Ljava/lang/Boolean;" &&
    call.arguments.head?.any fun argument => argument.type == .int || argument.type == .boolean

def booleanBoxSelector : Selector := callSelector fun _ call => boxesBoolean call

/-- A boxed boolean is written as its argument. Booleans loaded as integers are written as booleans
again. -/
def booleanBox : Rule := onCall fun ctx site call =>
  match call.arguments.head? with
  | none => .unsupported call.inspect
  | some (.constant c) =>
    if c.type = .int then
      match c.value.int? with
      | some value => .text (if value = 0 then "false" else "true")
      | none => .unsupported c.inspect
    else ctx.generate site (.constant c)
  | some argument => ctx.generate site argument

/-- The wrapper classes and the primitive types they box, other than the one for booleans. -/
def wrappers : List (String × JavaType) :=
  [("java.lang.Byte", .byte), ("java.lang.Short", .short), ("java.lang.Character", .char),
   ("java.lang.Integer", .int), ("java.lang.Long", .long), ("java.lang.Float", .float),
   ("java.lang.Double", .double)]

def boxesPrimitive (call : Call) : Bool :=
  call.isStatic && call.callee.name == "valueOf" &&
    wrappers.any fun (wrapper, primitive) =>
      call.callee.declaring == .ofName wrapper &&
        call.callee.signature == ⟨[primitive], .ofName wrapper⟩

def primitiveBoxSelector : Selector := callSelector fun _ call => boxesPrimitive call

def primitiveBox : Rule := onCall fun ctx site call =>
  match call.arguments.head? with
  | none => .unsupported call.inspect
  | some argument => ctx.generate site argument

/-- A static call on a type that is annotated as a language of its own. -/
def callsDsl (ctx : Context) (call : Call) : Bool :=
  call.isStatic &&
    (ctx.metadata? call.callee.declaring).any fun metadata =>
      metadata.isMarked TypeMetadata.dslMarker

def dslCallSelector : Selector := callSelector callsDsl

def dslCall : Rule := onCall invocation

/-- A static call of an accessor on an object of the type that declares it: one argument reads a
field, two write it. -/
def callsAccessor (call : Call) : Bool :=
  call.isStatic && Method.marked Method.accessorMarker call.callee.name &&
    (call.arguments.length == 1 || call.arguments.length == 2) &&
    call.arguments.head?.any fun argument => argument.type == call.callee.declaring

def accessorSelector : Selector := callSelector fun _ call => callsAccessor call

/-- The name of the field that an accessor with this body opens, or a description of what stands in
its place. -/
def accessedField (call : Call) (body : List Element) : Except String String :=
  match call.arguments.length, body.head? with
  | 1, some (.returnValue (.fieldReference _ field)) => .ok field.name
  | 1, some (.returnValue value) => .error value.inspect
  | 2, some (.fieldAssignment _ field _) => .ok field.name
  | _, some statement => .error statement.inspect
  | _, none => .error call.inspect

def fieldAccess (ctx : Context) (site : Site) (field : String) : List Element → Plan
  | [] => .done
  | object :: values =>
    ctx.generate site object ++ .text "." ++ .text field ++
      match values with
      | [] => .done
      | value :: _ => .text " = " ++ ctx.generate site value

/-- An accessor call is written as the access it performs. The accessor is looked up in the class
file of the type that declares it and decompiled to find the field. -/
def accessor : Rule := onCall fun ctx site call =>
  .mark (.resolveClass call.callee.declaring) <|
    match ctx.classFile call.callee.declaring with
    | .error e => .fail e
    | .ok file =>
      match file.method? call.callee.name with
      | none => .fail (.methodNotFound .accessor call.callee.declaring.name call.callee.name)
      | some method =>
        .mark (.decompile method) <|
          match ctx.decompile method with
          | .error cause => .fail (.decompile method.name file.name.text cause)
          | .ok body =>
            .mark (.accessor method.name file.name.text body.length) <|
              match accessedField call body with
              | .error description => .unsupported description
              | .ok field => fieldAccess ctx site field call.arguments

def instanceCallSelector : Selector := callSelector fun _ call => !call.isStatic

/-- The target of a call, unless it is a `this` that the style leaves out. -/
def instanceCall : Rule := onCall fun ctx site call =>
  (match call.target with
    | some target =>
      if ctx.omitsThis && target.isThis then .done else ctx.generate site target ++ .text "."
    | none => .done) ++
    invocation ctx site call

def staticCallSelector : Selector := callSelector fun _ call => call.isStatic

def staticCall : Rule := onCall fun ctx site call =>
  .text (ctx.typeName call.callee.declaring) ++ .text "." ++ invocation ctx site call

def bareCall : Rule := fun ctx site =>
  match site.element.call? with
  | some call => invocation ctx site call
  | none => .fail (.precondition "not a call")

end SourceRecovery.Java
