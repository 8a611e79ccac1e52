import SourceRecovery.Type.Basic

/-!
# Method signatures and their descriptors

A descriptor lists the parameter types in parentheses and then the return type. Reading takes the
whole text or refuses it.
-/

namespace SourceRecovery

structure Signature where
  parameters : List JavaType
  result : JavaType
deriving DecidableEq

structure DescriptorError where
  descriptor : String
deriving DecidableEq

def DescriptorError.message (e : DescriptorError) : String :=
  "invalid descriptor `" ++ e.descriptor ++ "`"

namespace Descriptor

def isNameChar (c : Char) : Bool := !(c == ';' || c == '[' || c == '(' || c == ')')

/-- The class named up to the next semicolon, and what follows it. -/
def readClass? (cs : List Char) : Option (JavaType × List Char) :=
  match cs.takeWhile isNameChar, cs.dropWhile isNameChar with
  | c :: name, ';' :: rest => some (.ofName (String.ofList (c :: name)), rest)
  | _, _ => none

/-- The field type at the front of a text, and what follows it. `void` is none. -/
def readField? : List Char → Option (JavaType × List Char)
  | [] => none
  | c :: rest =>
    if c = '[' then (readField? rest).map fun found => (.array found.1, found.2)
    else if c = 'L' then readClass? rest
    else
      match Primitive.ofLetter? c with
      | none | some .void => none
      | some p => some (.primitive p, rest)

theorem readClass?_length {cs rest : List Char} {t : JavaType}
    (h : readClass? cs = some (t, rest)) : rest.length < cs.length := by
  unfold readClass? at h
  split at h
  · next c name r htake hdrop =>
    cases h
    have split := congrArg List.length (List.takeWhile_append_dropWhile (p := isNameChar) (l := cs))
    rw [htake, hdrop] at split
    simp only [List.length_append, List.length_cons] at split
    omega
  · exact nomatch h

/-- Reading a field type uses up at least one character. -/
theorem readField?_length {cs rest : List Char} {t : JavaType}
    (h : readField? cs = some (t, rest)) : rest.length < cs.length := by
  induction cs generalizing t with
  | nil => exact nomatch h
  | cons c cs ih =>
    unfold readField? at h
    split at h
    · obtain ⟨found, hf, eq⟩ := Option.map_eq_some_iff.1 h
      cases eq
      exact Nat.lt_succ_of_lt (ih hf)
    · split at h
      · exact Nat.lt_succ_of_lt (readClass?_length h)
      · split at h
        · exact nomatch h
        · exact nomatch h
        · cases h
          exact Nat.lt_succ_self _

/-- All field types at the front of a text, and what follows them. -/
def readFields (cs : List Char) : List JavaType × List Char :=
  match h : readField? cs with
  | none => ([], cs)
  | some (t, rest) =>
    have : rest.length < cs.length := readField?_length h
    let more := readFields rest
    (t :: more.1, more.2)
termination_by cs.length

def readType? (cs : List Char) : Option JavaType :=
  match readField? cs with
  | some (t, []) => some t
  | _ => none

def readResult? (cs : List Char) : Option JavaType :=
  if cs = ['V'] then some .void else readType? cs

def readSignature? : List Char → Option Signature
  | '(' :: cs =>
    match readFields cs with
    | (parameters, ')' :: rest) => (readResult? rest).map fun result => ⟨parameters, result⟩
    | _ => none
  | _ => none

end Descriptor

namespace JavaType

def parse (descriptor : String) : Except DescriptorError JavaType :=
  match Descriptor.readType? descriptor.toList with
  | some t => .ok t
  | none => .error ⟨descriptor⟩

end JavaType

namespace Signature

def parse (descriptor : String) : Except DescriptorError Signature :=
  match Descriptor.readSignature? descriptor.toList with
  | some s => .ok s
  | none => .error ⟨descriptor⟩

def descriptor (s : Signature) : String :=
  "(" ++ String.join (s.parameters.map JavaType.descriptor) ++ ")" ++ s.result.descriptor

def inspect (s : Signature) : String :=
  Inspection.record "MethodSignature"
    [("parameter_types", Inspection.list (s.parameters.map JavaType.inspect)),
     ("return_type", s.result.inspect)]

end Signature

end SourceRecovery
