/-!
# The characters of TOML

Readers take the text that is left and give a value with the text after it. Here are those for
blanks, comments, line ends and digits.
-/

namespace ServletFilters.Toml

abbrev Reader (α : Type) := List Char → Option (α × List Char)

def isBlank (c : Char) : Bool := c == ' ' || c == '\t'

/-- A character beyond ASCII; all of them are allowed in texts and comments. -/
def isForeign (c : Char) : Bool := 0x80 ≤ c.toNat

def isCommentChar (c : Char) : Bool :=
  c == '\t' || (0x20 ≤ c.toNat && c.toNat ≤ 0x7e) || isForeign c

def isLiteralChar (c : Char) : Bool := isCommentChar c && c != '\''

/-- A character of a text between double quotes that stands for itself. -/
def isBasicChar (c : Char) : Bool := isCommentChar c && c != '"' && c != '\\'

def isBareKeyChar (c : Char) : Bool := c.isAlphanum || c == '_' || c == '-'

def hexDigit? (c : Char) : Option Nat :=
  if c.isDigit then some (c.toNat - '0'.toNat)
  else if 'a' ≤ c ∧ c ≤ 'f' then some (c.toNat - 'a'.toNat + 10)
  else if 'A' ≤ c ∧ c ≤ 'F' then some (c.toNat - 'A'.toNat + 10)
  else none

def digitOf? (base : Nat) (c : Char) : Option Nat := (hexDigit? c).filter (· < base)

def valueOf (base : Nat) (digits : List Nat) : Nat := digits.foldl (fun n d => n * base + d) 0

def skipBlanks (s : List Char) : List Char := s.dropWhile isBlank

def newline? : List Char → Option (List Char)
  | '\n' :: rest => some rest
  | '\r' :: '\n' :: rest => some rest
  | _ => none

def skipComment : List Char → List Char
  | '#' :: rest => rest.dropWhile isCommentChar
  | s => s

/-- The text after the rest of a line that holds only blanks and a comment. -/
def endOfLine? (s : List Char) : Option (List Char) :=
  match skipComment (skipBlanks s) with
  | [] => some []
  | rest => newline? rest

/-- The text without blanks, line ends and comments in front; so many of them at most. -/
def skipSpace : Nat → List Char → List Char
  | 0, s => s
  | n + 1, s =>
    let s := skipBlanks s
    match newline? s with
    | some rest => skipSpace n rest
    | none =>
      match s with
      | '#' :: _ =>
        match newline? (skipComment s) with
        | some rest => skipSpace n rest
        | none => s
      | _ => s

/-- Further digits; an underscore has to be followed by one. -/
def moreDigits? (base : Nat) : Reader (List Nat)
  | [] => some ([], [])
  | '_' :: [] => none
  | '_' :: c :: rest => do
    let digit ← digitOf? base c
    let (digits, rest) ← moreDigits? base rest
    return (digit :: digits, rest)
  | c :: rest =>
    match digitOf? base c with
    | some digit => do
      let (digits, rest) ← moreDigits? base rest
      return (digit :: digits, rest)
    | none => some ([], c :: rest)

/-- Digits with single underscores between them. -/
def digits? (base : Nat) : Reader (List Nat)
  | [] => none
  | c :: rest => do
    let digit ← digitOf? base c
    let (digits, rest) ← moreDigits? base rest
    return (digit :: digits, rest)

end ServletFilters.Toml
