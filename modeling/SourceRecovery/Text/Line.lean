/-!
# Lines of a text

A text is cut after each line terminator; a carriage return and a line feed count as one. Lines keep
what ends them, so that they make up the text again.
-/

namespace SourceRecovery.Line

def isTerminator (c : Char) : Bool :=
  c == '\n' || c == '\r' || c == '\x0b' || c == '\x0c' || c == '\u0085' || c == '\u2028' ||
    c == '\u2029'

/-- There is no line behind a terminator at the end. -/
def split : List Char → List (List Char)
  | [] => []
  | '\r' :: '\n' :: rest => ['\r', '\n'] :: split rest
  | c :: rest =>
    if isTerminator c then [c] :: split rest
    else
      match split rest with
      | [] => [[c]]
      | line :: more => (c :: line) :: more

/-- The number of the line that holds an offset, and the column of the offset on it, both counted
from one. -/
def place? (offset : Nat) : List (List Char) → Option (Nat × Nat)
  | [] => none
  | line :: more =>
    if offset < line.length then some (1, offset + 1)
    else (place? (offset - line.length) more).map fun (number, column) => (number + 1, column)

/-- A text cut at line feeds, as a paragraph is set. A carriage return right before one belongs to
it, and a line feed at the end closes the last row. -/
def rows : List Char → List (List Char)
  | [] => []
  | '\r' :: '\n' :: rest => [] :: rows rest
  | c :: rest =>
    if c = '\n' then [] :: rows rest
    else
      match rows rest with
      | [] => [[c]]
      | row :: more => (c :: row) :: more

end SourceRecovery.Line
