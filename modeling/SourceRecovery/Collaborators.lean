import SourceRecovery.Element.Basic
import SourceRecovery.ClassFile
import SourceRecovery.Error
import SourceRecovery.Style

/-!
# Collaborators

The services that rules call on: reflection on types, class files by type, the decompiler and the
code style. All of them are functions; tables registered up front give the usual ones.
-/

namespace SourceRecovery

structure MethodMetadata where
  name : String
  signature : Signature
  varargs : Bool
deriving DecidableEq

structure TypeMetadata where
  /-- Qualified names of the annotations. -/
  annotations : List String := []
  methods : List MethodMetadata := []
deriving DecidableEq

namespace TypeMetadata

/-- The annotation of types whose static methods are called without naming the type. -/
def dslMarker : String := "resyntax.annotations.DSL"

def isMarked (t : TypeMetadata) (marker : String) : Bool := t.annotations.contains marker

def method? (t : TypeMetadata) (name : String) (signature : Signature) : Option MethodMetadata :=
  t.methods.find? fun m => m.name == name && m.signature == signature

end TypeMetadata

abbrev TypeResolver := JavaType → Option TypeMetadata

abbrev ClassFileResolver := JavaType → Except GenerationError ClassFile

abbrev Decompiler := Method → Except DecompileError (List Element)

structure Collaborators where
  types : TypeResolver
  classFiles : ClassFileResolver
  decompiler : Decompiler
  style : CodeStyle

namespace TypeResolver

/-- Metadata registered in order; a later entry for a type replaces an earlier one. -/
def ofTable (entries : List (JavaType × TypeMetadata)) : TypeResolver := fun t =>
  (entries.reverse.find? fun entry => entry.1 == t).map Prod.snd

end TypeResolver

namespace ClassFileResolver

/-- Class files registered in order; a later one for a type replaces an earlier one. -/
def ofTable (files : List ClassFile) : ClassFileResolver := fun t =>
  match files.reverse.find? fun file => file.type == t with
  | some file => .ok file
  | none => .error (.classFileNotFound t.name)

end ClassFileResolver

namespace Decompiler

/-- Bodies by method name. A method without an entry has malformed code. -/
def ofTable (bodies : List (String × Except DecompileError (List Element))) : Decompiler :=
  fun m =>
  match bodies.lookup m.name with
  | some body => body
  | none => .error (.malformed ("no body for " ++ m.name))

end Decompiler

end SourceRecovery
