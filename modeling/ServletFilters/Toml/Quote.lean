import ServletFilters.Toml.Lexis

/-!
# Quoted texts in TOML

A text stands between double quotes, where a backslash starts an escape, or between single
quotes, where all characters stand for themselves. Between three quotes it may hold line ends
and quotes; a line end right after the opening quotes is dropped.
-/

namespace ServletFilters.Toml

/-- The character with the code that so many hexadecimal digits write. -/
def codePoint? (count : Nat) (s : List Char) : Option (Char × List Char) := do
  let digits ← (s.take count).mapM hexDigit?
  let code := valueOf 16 digits
  if digits.length = count ∧ code.isValidChar then some (Char.ofNat code, s.drop count) else none

/-- The character that an escape stands for; the backslash is read already. -/
def escape? : Reader Char
  | 'b' :: rest => some ('\x08', rest)
  | 't' :: rest => some ('\t', rest)
  | 'n' :: rest => some ('\n', rest)
  | 'f' :: rest => some ('\x0c', rest)
  | 'r' :: rest => some ('\r', rest)
  | '"' :: rest => some ('"', rest)
  | '\\' :: rest => some ('\\', rest)
  | 'u' :: rest => codePoint? 4 rest
  | 'U' :: rest => codePoint? 8 rest
  | _ => none

def skipLines : List Char → List Char
  | '\r' :: '\n' :: rest => skipLines rest
  | c :: rest => if isBlank c || c == '\n' then skipLines rest else c :: rest
  | [] => []

/-- The text after the blanks and line ends that a backslash at the end of a line removes. -/
def lineJoin? (s : List Char) : Option (List Char) := (newline? (skipBlanks s)).map skipLines

def basicBody : Nat → Reader (List Char)
  | 0, _ => none
  | n + 1, s =>
    match s with
    | '"' :: rest => some ([], rest)
    | '\\' :: rest => do
      let (c, rest) ← escape? rest
      let (cs, rest) ← basicBody n rest
      return (c :: cs, rest)
    | c :: rest =>
      if isBasicChar c then do
        let (cs, rest) ← basicBody n rest
        return (c :: cs, rest)
      else none
    | [] => none

def literalBody (s : List Char) : Option (List Char × List Char) :=
  match s.dropWhile isLiteralChar with
  | '\'' :: rest => some (s.takeWhile isLiteralChar, rest)
  | _ => none

/-- What a run of quotes means inside three quotes: fewer than three are text; three or more
end the text, and up to two of them belong to it. -/
def closing? (count : Nat) : Option Nat := if count < 3 then none else some (min (count - 3) 2)

/-- A text of several lines after its opening quotes and the line end behind them. Only between
double quotes do backslashes count. -/
def linesBody (quote : Char) : Nat → Reader (List Char)
  | 0, _ => none
  | n + 1, s =>
    match newline? s with
    | some rest => do
      let (cs, rest) ← linesBody quote n rest
      return ('\n' :: cs, rest)
    | none =>
      match s with
      | [] => none
      | c :: rest =>
        if c = quote then
          let run := s.takeWhile (· = quote)
          match closing? run.length with
          | some kept => some (List.replicate kept quote, s.drop (kept + 3))
          | none => do
            let (cs, rest) ← linesBody quote n (s.drop run.length)
            return (run ++ cs, rest)
        else if c = '\\' ∧ quote = '"' then
          match lineJoin? rest with
          | some rest => linesBody quote n rest
          | none => do
            let (c, rest) ← escape? rest
            let (cs, rest) ← linesBody quote n rest
            return (c :: cs, rest)
        else if isCommentChar c then do
          let (cs, rest) ← linesBody quote n rest
          return (c :: cs, rest)
        else none

def lineText? : Reader String
  | '"' :: rest => (basicBody (rest.length + 1) rest).map fun r => (String.ofList r.1, r.2)
  | '\'' :: rest => (literalBody rest).map fun r => (String.ofList r.1, r.2)
  | _ => none

/-- A text of several lines; the opening quotes are read already. -/
def linesText? (quote : Char) (s : List Char) : Option (String × List Char) :=
  let body := (newline? s).getD s
  (linesBody quote (body.length + 1) body).map fun r => (String.ofList r.1, r.2)

def text? : Reader String
  | '"' :: '"' :: '"' :: rest => linesText? '"' rest
  | '\'' :: '\'' :: '\'' :: rest => linesText? '\'' rest
  | s => lineText? s

end ServletFilters.Toml
