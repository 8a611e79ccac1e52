import SourceRecovery.Text.Hidden

/-!
# Inspection text

A one-line description of a value: records with their fields, wrapped values, lists, quoted texts.
Failure messages quote elements in this form.
-/

namespace SourceRecovery.Inspection

def hex (n : Nat) : String := String.ofList (Nat.toDigits 16 n)

/-- One character inside quotes. The closing quote and the backslash are escaped, and characters
that cannot be seen are given by number. -/
def escape (quote c : Char) : String :=
  if c = '\x00' then "\\0"
  else if c = '\t' then "\\t"
  else if c = '\r' then "\\r"
  else if c = '\n' then "\\n"
  else if c = quote ∨ c = '\\' then "\\" ++ c.toString
  else if CharClass.isHidden c then "\\u\x7b" ++ hex c.toNat ++ "\x7d"
  else c.toString

def text (s : String) : String :=
  "\"" ++ String.join (s.toList.map (escape '\x22')) ++ "\""

def char (c : Char) : String := "'" ++ escape '\x27' c ++ "'"

def record (name : String) (fields : List (String × String)) : String :=
  let entries := fields.map fun field => field.1 ++ ": " ++ field.2
  name ++ " \x7b " ++ ", ".intercalate entries ++ " \x7d"

def wrapped (name value : String) : String := name ++ "(" ++ value ++ ")"

def list (items : List String) : String := "[" ++ ", ".intercalate items ++ "]"

def option : Option String → String
  | none => "None"
  | some value => wrapped "Some" value

end SourceRecovery.Inspection
