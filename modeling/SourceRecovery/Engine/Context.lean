import SourceRecovery.Collaborators

/-!
# Contexts

What a rule is given besides its site: the indentation level and the collaborators. A deeper context
is a new value; the one it came from is unchanged.
-/

namespace SourceRecovery

structure Context where
  collaborators : Collaborators
  level : Nat := 0

namespace Context

/-- Written once for each level in front of a statement. -/
def indentUnit : String := "   "

def deeper (ctx : Context) : Context := { ctx with level := ctx.level + 1 }

def typeName (ctx : Context) (t : JavaType) : String := ctx.collaborators.style.typeName t

def omitsThis (ctx : Context) : Bool := ctx.collaborators.style.omitsThis

def metadata? (ctx : Context) (t : JavaType) : Option TypeMetadata := ctx.collaborators.types t

def classFile (ctx : Context) (t : JavaType) : Except GenerationError ClassFile :=
  ctx.collaborators.classFiles t

def decompile (ctx : Context) (m : Method) : Except DecompileError (List Element) :=
  ctx.collaborators.decompiler m

def inspect (ctx : Context) : String :=
  "GenerationContext \x7b indentation_level: " ++ toString ctx.level ++ ", .. \x7d"

end Context

/-- Inspection text of any collaborators: functions have none. -/
def Collaborators.inspect (_ : Collaborators) : String := "Collaborators \x7b .. \x7d"

end SourceRecovery
