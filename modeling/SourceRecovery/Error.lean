import SourceRecovery.Operator

/-!
# Errors of a generation

Each error is a cause; its wording, its code and the advice that goes with it are functions of the
cause.
-/

namespace SourceRecovery

inductive DecompileError where
  | unreadable
  | malformed (reason : String)
deriving DecidableEq

def DecompileError.message : DecompileError → String
  | unreadable => "I/O error while reading byte code"
  | malformed reason => "malformed byte code: " ++ reason

/-- What a method that cannot be found was wanted for. -/
inductive MethodRole where
  | accessor
  | lambdaBacking
deriving DecidableEq

def MethodRole.text : MethodRole → String
  | accessor => "accessor"
  | lambdaBacking => "lambda backing"

inductive GenerationError where
  /-- The setup is incomplete, or a rule was asked for something it is not for. -/
  | precondition (reason : String)
  /-- No rule can render what is described. -/
  | unsupportedElement (description : String)
  | unsupportedOperator (op : Operator)
  | methodNotFound (role : MethodRole) (className method : String)
  | classFileNotFound (typeName : String)
  | noLocalVariable (index : Nat) (className method : String)
  | decompile (method className : String) (cause : DecompileError)
  /-- The sink refused a piece of text. -/
  | write
deriving DecidableEq

namespace GenerationError

def message : GenerationError → String
  | precondition reason => reason
  | unsupportedElement description => "Unsupported element: " ++ description
  | unsupportedOperator op => "Operator type is not supported: " ++ op.label
  | methodNotFound role className method =>
    "Could not find " ++ role.text ++ " method " ++ className ++ "." ++ method ++ " in class file"
  | classFileNotFound typeName => "Class file not found for type " ++ typeName
  | noLocalVariable index className method =>
    "No local variable exists for index " ++ toString index ++ " in method " ++ className ++ "." ++
      method
  | decompile method className _ =>
    "Failed to decompile method '" ++ method ++ "' in class '" ++ className ++ "'"
  | write => "failed to write generated code"

def label : GenerationError → String
  | precondition _ => "Precondition"
  | unsupportedElement _ => "UnsupportedElement"
  | unsupportedOperator _ => "UnsupportedOperator"
  | methodNotFound .. => "AccessorResolution"
  | classFileNotFound _ => "ClassFileNotFound"
  | noLocalVariable .. => "LocalVariableNotAvailable"
  | decompile .. => "Decompile"
  | write => "Write"

def code : GenerationError → String
  | precondition _ => "resyntax::precondition"
  | unsupportedElement _ => "resyntax::unsupported_element"
  | unsupportedOperator _ => "resyntax::unsupported_operator"
  | methodNotFound .. => "resyntax::accessor_resolution"
  | classFileNotFound _ => "resyntax::class_file_not_found"
  | noLocalVariable .. => "resyntax::local_variable_not_available"
  | decompile .. => "resyntax::decompile"
  | write => "resyntax::write"

def help? : GenerationError → Option String
  | unsupportedElement _ => some "register a delegate for this element type"
  | _ => none

def cause? : GenerationError → Option String
  | decompile _ _ cause => some cause.message
  | write => some "an error occurred when formatting an argument"
  | _ => none

end GenerationError

end SourceRecovery
