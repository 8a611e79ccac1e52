import SourceRecovery.Element.Basic

/-!
# Equality of trees

Two trees are equal when they have the same shape and equal parts. Constants are compared as
`ConstantValue.equal` does, so a tree that holds not-a-number differs from itself.
-/

namespace SourceRecovery.Element

mutual

def equal : Element → Element → Bool
  | .return, .return => true
  | returnValue a, returnValue b => a.equal b
  | constant a, constant b => a.equal b
  | variableReference a, variableReference b => a == b
  | variableAssignment v a, variableAssignment w b => v == w && a.equal b
  | fieldReference t f, fieldReference u g => equalOption t u && f == g
  | fieldAssignment t f a, fieldAssignment u g b => equalOption t u && f == g && a.equal b
  | binaryOperator a op b t, binaryOperator c op' d u =>
    a.equal c && op == op' && b.equal d && t == u
  | unaryOperator a op t, unaryOperator b op' u => a.equal b && op == op' && t == u
  | compare a b, compare c d => a.equal c && b.equal d
  | branch a op b pc, branch c op' d pc' => a.equal c && op == op' && b.equal d && pc == pc'
  | goto pc, goto pc' => pc == pc'
  | cast a t, cast b u => a.equal b && t == u
  | arrayLoad a i t, arrayLoad b j u => a.equal b && i.equal j && t == u
  | arrayStore a i v, arrayStore b j w => a.equal b && i.equal j && v.equal w
  | newArray t c n is, newArray u d m js =>
    t == u && c == d && n.equal m && equalInitializers is js
  | new t s as, new u r bs => t == u && s == r && equalList as bs
  | allocate t, allocate u => t == u
  | increment a n x t, increment b m y u => a.equal b && n.equal m && x == y && t == u
  | lambda r t, lambda s u => equalOption r s && t == u
  | methodCall t c as, methodCall u d bs => equalOption t u && c == d && equalList as bs
  | _, _ => false

def equalOption : Option Element → Option Element → Bool
  | none, none => true
  | some a, some b => a.equal b
  | _, _ => false

def equalList : List Element → List Element → Bool
  | [], [] => true
  | a :: as, b :: bs => a.equal b && equalList as bs
  | _, _ => false

def equalInitializers : List (UInt32 × Element) → List (UInt32 × Element) → Bool
  | [], [] => true
  | (i, a) :: as, (j, b) :: bs => i == j && a.equal b && equalInitializers as bs
  | _, _ => false

end

end SourceRecovery.Element
