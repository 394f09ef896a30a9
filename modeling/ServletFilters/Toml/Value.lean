import ServletFilters.Toml.Moment
import ServletFilters.Toml.Number
import ServletFilters.Toml.Quote
import ServletFilters.Toml.Tree

/-!
# Keys and values in TOML

A value is a text, a number, a truth value, a moment, an array or a table in braces. Arrays may
stretch over lines and end with a comma, tables in braces may not. A reader of values is made
from the reader of the values inside, so arrays and tables nest to a fixed depth.
-/

namespace ServletFilters.Toml

/-- How deeply arrays and tables nest, and how many parts a key has at most. -/
def maxNesting : Nat := 79

def simpleKey? (s : List Char) : Option (String × List Char) :=
  match s with
  | '"' :: _ | '\'' :: _ => lineText? s
  | _ =>
    match s.takeWhile isBareKeyChar with
    | [] => none
    | key => some (String.ofList key, s.dropWhile isBareKeyChar)

/-- A key of so many parts at most, with the blanks around the parts. -/
def key? : Nat → Reader (List String)
  | 0, _ => none
  | n + 1, s => do
    let (part, s) ← simpleKey? (skipBlanks s)
    match skipBlanks s with
    | '.' :: s =>
      let (parts, s) ← key? n s
      return (part :: parts, s)
    | s => return ([part], s)

def splitLast : List String → Option (List String × String)
  | [] => none
  | parts => parts.getLast?.map fun last => (parts.dropLast, last)

def pair? (value : Reader Datum) (s : List Char) :
    Option ((List String × String × Datum) × List Char) := do
  let (parts, s) ← key? maxNesting s
  let (path, key) ← splitLast parts
  match s with
  | '=' :: s =>
    let (d, s) ← value (skipBlanks s)
    return ((path, key, d), skipBlanks s)
  | _ => none

/-- The items of an array after its opening bracket, so many at most. -/
def items? (value : Reader Datum) : Nat → Reader (List Datum)
  | 0, _ => none
  | n + 1, s =>
    match skipSpace s.length s with
    | ']' :: rest => some ([], rest)
    | s => do
      let (d, s) ← value s
      match skipSpace s.length s with
      | ']' :: rest => return ([d], rest)
      | ',' :: rest =>
        let (others, rest) ← items? value n rest
        return (d :: others, rest)
      | _ => none

/-- The pairs of a table in braces, added to those before; so many at most. -/
def pairs? (value : Reader Datum) : Nat → Entries → Reader Entries
  | 0, _, _ => none
  | n + 1, entries, s => do
    let ((path, key, d), s) ← pair? value s
    let entries ← Entries.assign path key d .header entries
    match s with
    | '}' :: rest => return (entries, rest)
    | ',' :: rest => pairs? value n entries rest
    | _ => none

def inlineTable? (value : Reader Datum) (s : List Char) : Option (Datum × List Char) :=
  match skipBlanks s with
  | '}' :: rest => some (.table [], rest)
  | _ => (pairs? value s.length [] s).map fun r => (.table (Entries.data r.1), r.2)

def scalar? (s : List Char) : Option (Datum × List Char) :=
  match s with
  | '"' :: _ | '\'' :: _ => (text? s).map fun r => (.text r.1, r.2)
  | 't' :: 'r' :: 'u' :: 'e' :: rest => some (.flag true, rest)
  | 'f' :: 'a' :: 'l' :: 's' :: 'e' :: rest => some (.flag false, rest)
  | _ =>
    match moment? s with
    | some (m, rest) => some (.moment m.shown, rest)
    | none => number? s

/-- A value in which arrays and tables nest so many levels deep. -/
def value? : Nat → Reader Datum
  | levels + 1, '[' :: rest =>
    (items? (value? levels) (rest.length + 1) rest).map fun r => (.array r.1, r.2)
  | levels + 1, '{' :: rest => inlineTable? (value? levels) rest
  | _, s => scalar? s

end ServletFilters.Toml
