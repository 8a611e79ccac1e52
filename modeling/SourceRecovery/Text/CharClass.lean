/-!
# Character classes

A class of characters is a list of inclusive ranges of code points in ascending order. The first
range that does not end before a code point decides whether it is a member.
-/

namespace SourceRecovery.CharClass

def inRanges (n : Nat) : List (Nat × Nat) → Bool
  | [] => false
  | r :: rest => if n ≤ r.2 then r.1 ≤ n else inRanges n rest

/-- White space: the separators of the character standard and the control characters that move the
cursor. -/
def blankRanges : List (Nat × Nat) :=
  [(0x9, 0xd), (0x20, 0x20), (0x85, 0x85), (0xa0, 0xa0), (0x1680, 0x1680), (0x2000, 0x200a),
   (0x2028, 0x2029), (0x202f, 0x202f), (0x205f, 0x205f), (0x3000, 0x3000)]

def isBlank (c : Char) : Bool := inRanges c.toNat blankRanges

end SourceRecovery.CharClass
