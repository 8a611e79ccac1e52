import SourceRecovery.Element.Basic

/-!
# Walking a tree

The nodes of a tree in source order, each with its depth, and the number of nodes of each kind. A
node comes before its sub-elements, and these come in the order of `Element.children`.
-/

namespace SourceRecovery

namespace Element

mutual

/-- The element and everything below it, in source order, with depths from `depth` on. -/
def walk (depth : Nat) : Element → List (Nat × Element)
  | e@(.return) => [(depth, e)]
  | e@(returnValue value) => (depth, e) :: value.walk (depth + 1)
  | e@(constant _) => [(depth, e)]
  | e@(variableReference _) => [(depth, e)]
  | e@(variableAssignment _ value) => (depth, e) :: value.walk (depth + 1)
  | e@(fieldReference target _) => (depth, e) :: walkOption (depth + 1) target
  | e@(fieldAssignment target _ value) =>
    (depth, e) :: (walkOption (depth + 1) target ++ value.walk (depth + 1))
  | e@(binaryOperator left _ right _) =>
    (depth, e) :: (left.walk (depth + 1) ++ right.walk (depth + 1))
  | e@(unaryOperator operand _ _) => (depth, e) :: operand.walk (depth + 1)
  | e@(compare left right) => (depth, e) :: (left.walk (depth + 1) ++ right.walk (depth + 1))
  | e@(branch left _ right _) => (depth, e) :: (left.walk (depth + 1) ++ right.walk (depth + 1))
  | e@(goto _) => [(depth, e)]
  | e@(cast value _) => (depth, e) :: value.walk (depth + 1)
  | e@(arrayLoad array index _) => (depth, e) :: (array.walk (depth + 1) ++ index.walk (depth + 1))
  | e@(arrayStore array index value) =>
    (depth, e) :: (array.walk (depth + 1) ++ index.walk (depth + 1) ++ value.walk (depth + 1))
  | e@(newArray _ _ length initializers) =>
    (depth, e) :: (length.walk (depth + 1) ++ walkInitializers (depth + 1) initializers)
  | e@(new _ _ arguments) => (depth, e) :: walkList (depth + 1) arguments
  | e@(allocate _) => [(depth, e)]
  | e@(increment var amount _ _) =>
    (depth, e) :: (var.walk (depth + 1) ++ amount.walk (depth + 1))
  | e@(lambda receiver _) => (depth, e) :: walkOption (depth + 1) receiver
  | e@(methodCall target _ arguments) =>
    (depth, e) :: (walkOption (depth + 1) target ++ walkList (depth + 1) arguments)

def walkOption (depth : Nat) : Option Element → List (Nat × Element)
  | none => []
  | some e => e.walk depth

def walkList (depth : Nat) : List Element → List (Nat × Element)
  | [] => []
  | e :: rest => e.walk depth ++ walkList depth rest

def walkInitializers (depth : Nat) : List (UInt32 × Element) → List (Nat × Element)
  | [] => []
  | (_, e) :: rest => e.walk depth ++ walkInitializers depth rest

end

theorem walkOption_eq (depth : Nat) (target : Option Element) :
    walkOption depth target = target.toList.flatMap (walk depth) := by
  cases target <;> simp [walkOption]

theorem walkList_eq (depth : Nat) (es : List Element) :
    walkList depth es = es.flatMap (walk depth) := by
  induction es with
  | nil => rfl
  | cons e rest ih => simp [walkList, ih]

theorem walkInitializers_eq (depth : Nat) (is : List (UInt32 × Element)) :
    walkInitializers depth is = (is.map Prod.snd).flatMap (walk depth) := by
  induction is with
  | nil => rfl
  | cons i rest ih => simp [walkInitializers, ih]

/-- A walk is the node and then the walks of its sub-elements. -/
theorem walk_eq (depth : Nat) (e : Element) :
    e.walk depth = (depth, e) :: e.children.flatMap (walk (depth + 1)) := by
  cases e <;>
    simp [walk, children, walkOption_eq, walkList_eq, walkInitializers_eq, List.append_assoc]

def nodes (e : Element) : List Element := (e.walk 0).map Prod.snd

end Element

/-- How many nodes of each kind have been seen. Kinds that were not seen have no entry. -/
structure Census where
  entries : List (Kind × Nat) := []

namespace Census

def count (census : Census) (kind : Kind) : Nat := (census.entries.lookup kind).getD 0

def addTo (kind : Kind) : List (Kind × Nat) → List (Kind × Nat)
  | [] => [(kind, 1)]
  | (k, n) :: rest => if k = kind then (k, n + 1) :: rest else (k, n) :: addTo kind rest

def visit (census : Census) (e : Element) : Census :=
  ⟨e.nodes.foldl (fun entries node => addTo node.kind entries) census.entries⟩

def ofTrees (trees : List Element) : Census := trees.foldl visit {}

def total (census : Census) : Nat := census.entries.foldr (fun entry sum => entry.2 + sum) 0

end Census

end SourceRecovery
