import SourceRecovery.Engine.Dispatch
import SourceRecovery.Java.Builtin
import SourceRecovery.Java.Calls

/-!
# The catalog of Java rules

The order of the registrations decides where selectors overlap: boxing calls, calls of annotated
types and accessors come before calls in general.
-/

namespace SourceRecovery.Java

def registrations : List Registration :=
  [.on (.ofKind .return) returnRule,
   .on (.ofKind .constant) constant,
   .on (.ofKind .returnValue) returnValue,
   .on (.ofKind .variableReference) variableReference,
   .on (.ofKind .arrayStore) arrayStore,
   .on (.ofKind .cast) cast,
   .on (.ofKind .arrayLoad) arrayLoad,
   .on (.ofKind .allocate) allocate,
   .on (.ofKind .increment) increment,
   .on (.ofKind .binaryOperator) binaryOperator,
   .on booleanBoxSelector booleanBox,
   .on primitiveBoxSelector primitiveBox,
   .on dslCallSelector dslCall,
   .on accessorSelector accessor,
   .on instanceCallSelector instanceCall,
   .on staticCallSelector staticCall,
   .on uninitializedArraySelector uninitializedArray,
   .on initializedArraySelector initializedArray]

def catalog : Catalog := .ofList registrations

end SourceRecovery.Java
