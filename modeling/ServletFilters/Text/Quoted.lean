import ServletFilters.Text.Hidden

/-!
# Quoted text

The form in which values are listed for a reader: quotes around a text, escapes for the
characters that would not be seen, and the listings built from such parts.
-/

namespace ServletFilters.Text

/-- The lowercase hexadecimal digits of a number, without leading zeros. -/
def hex (n : Nat) : List Char := Nat.toDigits 16 n

def escape (c : Char) : List Char :=
  if c = '\x00' then ['\\', '0']
  else if c = '\t' then ['\\', 't']
  else if c = '\r' then ['\\', 'r']
  else if c = '\n' then ['\\', 'n']
  else if c = '\\' ∨ c = '"' then ['\\', c]
  else if isHidden c then ['\\', 'u', '\x7b'] ++ hex c.toNat ++ ['\x7d']
  else [c]

def quote (s : String) : String :=
  String.ofList ('"' :: s.toList.flatMap escape ++ ['"'])

def shownOption (shown : α → String) : Option α → String
  | none => "None"
  | some a => "Some(" ++ shown a ++ ")"

def shownList (values : List String) : String := "[" ++ ", ".intercalate values ++ "]"

def shownSet (values : List String) : String := "\x7b" ++ ", ".intercalate values ++ "\x7d"

def shownBool (b : Bool) : String := if b then "true" else "false"

def shownRecord (name : String) (fields : List (String × String)) : String :=
  name ++ " \x7b " ++ ", ".intercalate (fields.map fun f => f.1 ++ ": " ++ f.2) ++ " \x7d"

end ServletFilters.Text
