import SourceRecovery.Text.Inspection
import SourceRecovery.Text.Segment

/-!
# Java types

Primitive types, classes by binary name, and arrays. Each type has a qualified name, a simple name
and a descriptor.
-/

namespace SourceRecovery

/-- Primitive types, with `void` for methods that return nothing. -/
inductive Primitive where
  | boolean
  | byte
  | char
  | short
  | int
  | long
  | float
  | double
  | void
deriving DecidableEq

namespace Primitive

def keyword : Primitive → String
  | boolean => "boolean"
  | byte => "byte"
  | char => "char"
  | short => "short"
  | int => "int"
  | long => "long"
  | float => "float"
  | double => "double"
  | void => "void"

def letter : Primitive → Char
  | boolean => 'Z'
  | byte => 'B'
  | char => 'C'
  | short => 'S'
  | int => 'I'
  | long => 'J'
  | float => 'F'
  | double => 'D'
  | void => 'V'

def all : List Primitive := [boolean, byte, char, short, int, long, float, double, void]

def ofLetter? (c : Char) : Option Primitive := all.find? fun p => p.letter = c

def ofKeyword? (word : String) : Option Primitive := all.find? fun p => p.keyword = word

def inspect : Primitive → String
  | boolean => "Boolean"
  | byte => "Byte"
  | char => "Char"
  | short => "Short"
  | int => "Int"
  | long => "Long"
  | float => "Float"
  | double => "Double"
  | void => "Void"

theorem ofLetter?_letter (p : Primitive) : ofLetter? p.letter = some p := by
  cases p <;> rfl

theorem letter_of_ofLetter? {c : Char} {p : Primitive} (h : ofLetter? c = some p) :
    p.letter = c := by
  simpa using List.find?_some h

end Primitive

/-- The binary name of a class, with `.` between packages and `$` before nested classes. -/
structure ClassName where
  text : String
  slash_free : '/' ∉ text.toList
deriving DecidableEq

namespace ClassName

def dotted (c : Char) : Char := if c = '/' then '.' else c

def slashed (c : Char) : Char := if c = '.' then '/' else c

theorem dotted_ne_slash (c : Char) : dotted c ≠ '/' := by
  unfold dotted
  split
  · decide
  · assumption

theorem slash_notMem_map_dotted (cs : List Char) : '/' ∉ cs.map dotted := by
  intro h
  obtain ⟨c, _, hc⟩ := List.mem_map.1 h
  exact dotted_ne_slash c hc

/-- The class with this name, in binary (`java.lang.String`) or internal (`java/lang/String`)
form. -/
def ofText (s : String) : ClassName :=
  ⟨String.ofList (s.toList.map dotted), by
    rw [String.toList_ofList]
    exact slash_notMem_map_dotted s.toList⟩

def internal (n : ClassName) : String := String.ofList (n.text.toList.map slashed)

def unqualified (n : ClassName) : List Char := Segment.afterLast '.' n.text.toList

/-- The name without package and enclosing classes: what follows the last `$`, unless the name ends
in it. -/
def simple (n : ClassName) : String :=
  String.ofList <|
    match Segment.splitLast? '$' n.unqualified with
    | some (_, c :: rest) => c :: rest
    | _ => n.unqualified

def package? (n : ClassName) : Option String :=
  (Segment.splitLast? '.' n.text.toList).map fun cut => String.ofList cut.1

def inspect (n : ClassName) : String := Inspection.wrapped "ClassName" (Inspection.text n.text)

end ClassName

inductive JavaType where
  | primitive (p : Primitive)
  | named (name : ClassName)
  | array (component : JavaType)
deriving DecidableEq

namespace JavaType

def boolean : JavaType := .primitive .boolean
def byte : JavaType := .primitive .byte
def char : JavaType := .primitive .char
def short : JavaType := .primitive .short
def int : JavaType := .primitive .int
def long : JavaType := .primitive .long
def float : JavaType := .primitive .float
def double : JavaType := .primitive .double
def void : JavaType := .primitive .void

def ofName (name : String) : JavaType := .named (.ofText name)

def object : JavaType := ofName "java.lang.Object"

def string : JavaType := ofName "java.lang.String"

def classLiteral : JavaType := ofName "java.lang.Class"

def primitive? : JavaType → Option Primitive
  | .primitive p => some p
  | _ => none

def className? : JavaType → Option ClassName
  | .named name => some name
  | _ => none

def component? : JavaType → Option JavaType
  | .array component => some component
  | _ => none

def isPrimitive (t : JavaType) : Bool := t.primitive?.isSome

def isVoid (t : JavaType) : Bool := t.primitive? == some .void

def isClass (t : JavaType) (name : String) : Bool :=
  match t with
  | .named n => n.text == name
  | _ => false

/-- The qualified name, such as `java.lang.String` or `int[]`. -/
def name : JavaType → String
  | .primitive p => p.keyword
  | .named n => n.text
  | .array component => component.name ++ "[]"

/-- The name without package and enclosing classes, such as `String` or `Entry[]`. -/
def simpleName : JavaType → String
  | .primitive p => p.keyword
  | .named n => n.simple
  | .array component => component.simpleName ++ "[]"

/-- The qualified name without its package: nested classes keep the name of the class around
them. -/
def unqualifiedName (t : JavaType) : String :=
  String.ofList (Segment.afterLast '.' t.name.toList)

/-- The field descriptor, such as `Ljava/lang/String;` or `[I`. -/
def descriptor : JavaType → String
  | .primitive p => p.letter.toString
  | .named n => "L" ++ n.internal ++ ";"
  | .array component => "[" ++ component.descriptor

def inspect : JavaType → String
  | .primitive p => Inspection.wrapped "Primitive" p.inspect
  | .named n => Inspection.wrapped "Class" n.inspect
  | .array component => Inspection.wrapped "Array" component.inspect

end JavaType

end SourceRecovery
