/-!
# Notices

A notice says what is to be shown of a failure: a text, the stretch of it that is labelled, and the
remarks that go with it. A layout draws notices. What lines a text has, and where a character of it
is found, is for the layout to say.
-/

namespace SourceRecovery

/-- Characters of a text, counted from zero: from `start` on, up to but without `stop`. -/
structure Stretch where
  start : Nat
  stop : Nat
deriving DecidableEq

structure Label where
  span : Stretch
  message : String

structure Notice where
  colours : Bool
  /-- The name under which the text is shown. -/
  name : String
  text : String
  span : Stretch
  code : String
  message : String
  label : Label
  help? : Option String
  note? : Option String

structure Layout where
  isTerminator : Char → Bool
  /-- The lines of a text in order, each with what ends it. -/
  lines : List Char → List (List Char)
  /-- The line and the column that are reported for a character of a text, both counted from one. -/
  place? : List Char → Nat → Option (Nat × Nat)
  draw : Notice → String

end SourceRecovery
