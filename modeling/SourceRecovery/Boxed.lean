import SourceRecovery.Notice
import SourceRecovery.Text.Line
import SourceRecovery.Text.Width

/-!
# The boxed layout

The line of the label is shown beside a margin, with the label underlined and its message below.
Notices are laid out as rows of inked text and then written with or without colours.
-/

namespace SourceRecovery

namespace Boxed

/-! ## Ink -/

inductive Ink where
  | plain
  /-- The colour of the heading. -/
  | alarm
  /-- A colour by its number in the palette. -/
  | palette (index : Nat)
deriving DecidableEq

namespace Ink

def frame : Ink := palette 246
def margin : Ink := palette 240
def quiet : Ink := palette 249
def label : Ink := palette 155
def advice : Ink := palette 115

end Ink

structure Span where
  ink : Ink
  text : String
deriving DecidableEq

abbrev Row := List Span

def plain (text : String) : Row := [⟨.plain, text⟩]

def inked (ink : Ink) (cs : List Char) : Row := cs.map fun c => ⟨ink, c.toString⟩

def spaces (n : Nat) : String := String.ofList (List.replicate n ' ')

def Span.write (colours : Bool) (s : Span) : String :=
  if colours then
    match s.ink with
    | .plain => s.text
    | .alarm => "\x1b[31m" ++ s.text ++ "\x1b[0m"
    | .palette n => "\x1b[38;5;" ++ toString n ++ "m" ++ s.text ++ "\x1b[0m"
  else s.text

def Row.write (colours : Bool) (row : Row) : String :=
  String.join (row.map (Span.write colours)) ++ "\n"

/-! ## Columns -/

def tabWidth : Nat := 4

/-- What a character becomes on the line, given its position: a tab runs to the next stop, other
white space is one space. -/
def shown (position : Nat) (c : Char) : List Char :=
  if c = '\t' then List.replicate (tabWidth - position % tabWidth) ' '
  else if CharClass.isBlank c then [' ']
  else [c]

def columns (position : Nat) (c : Char) : Nat :=
  if c = '\t' then tabWidth - position % tabWidth
  else if CharClass.isBlank c then 1
  else CharClass.width c

def shownLine (ink : Nat → Ink) (text : List Char) : Row :=
  text.zipIdx.flatMap fun (c, position) => inked (ink position) (shown position c)

def totalColumns (text : List Char) : Nat :=
  text.zipIdx.foldr (fun (c, position) sum => columns position c + sum) 0

/-! ## Rows -/

def beside (width : Nat) (row : Row) : Row :=
  plain " " ++ [⟨.margin, spaces (width + 1) ++ "│"⟩] ++ plain " " ++ row

/-- Advice under its heading: an empty row, then the rows of the text, set in from the second on. -/
def remark (width : Nat) (heading text : String) : List Row :=
  beside width [] ::
    match Line.rows text.toList with
    | [] => []
    | first :: more =>
      beside width ([⟨.advice, heading⟩] ++ plain (": " ++ String.ofList first)) ::
        more.map fun row => beside width (plain (spaces 6 ++ String.ofList row))

/-- The label is underlined, and its message hangs on the middle of the line. -/
def rows (n : Notice) : List Row :=
  let lines := Line.split n.text.toList
  let (row, column) := (Line.place? n.span.start lines).getD (1, 1)
  let line := ((lines[row - 1]?).getD []).takeWhile fun c => !Line.isTerminator c
  let number := toString row
  let width := number.length
  let length := n.label.span.stop - n.label.span.start
  let middle := length / 2
  let indent := plain (spaces (totalColumns (line.take (column - 1))))
  let ink := fun position =>
    if column ≤ position + 1 ∧ position + 1 < column + length then Ink.label else .quiet
  [[⟨.alarm, "[" ++ n.code ++ "] Error:"⟩] ++ plain (" " ++ n.message),
   plain (spaces (width + 2)) ++ inked .frame ['╭', '─', '['] ++
     plain (" " ++ n.name ++ ":" ++ number ++ ":" ++ toString column ++ " ") ++
     inked .frame [']'],
   plain (spaces (width + 2)) ++ inked .frame ['│'],
   plain " " ++ [⟨.frame, number ++ " │"⟩] ++ plain " " ++ shownLine ink line,
   beside width (indent ++
     inked .label (List.replicate middle '─' ++ '┬' :: List.replicate (length - middle - 1) '─') ++
     plain "  "),
   beside width (indent ++ plain (spaces middle) ++
     inked .label ('╰' :: List.replicate (length - middle + 1) '─') ++
     plain (" " ++ n.label.message))] ++
  (n.help?.map (remark width "Help")).getD [] ++
  (n.note?.map (remark width "Note")).getD [] ++
  [[⟨.frame, String.ofList (List.replicate (width + 2) '─' ++ ['╯'])⟩]]

end Boxed

def Layout.boxed : Layout where
  isTerminator := Line.isTerminator
  lines := Line.split
  place? text offset := Line.place? offset (Line.split text)
  draw n := String.join ((Boxed.rows n).map (Boxed.Row.write n.colours))

end SourceRecovery
