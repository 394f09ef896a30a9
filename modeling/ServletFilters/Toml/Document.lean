import ServletFilters.Toml.Value

/-!
# TOML texts

A text is a row of lines: blank ones, pairs of a key and a value, and headers, which say to what
table the pairs below them belong. `parse` gives the table that the text describes.
-/

namespace ServletFilters.Toml

/-- What has been read: the whole table, and the path of the table that pairs go to. -/
structure Draft where
  root : Entries := []
  path : List String := []

namespace Draft

/-- Adds a pair to the current table. -/
def addPair (d : Draft) (path : List String) (key : String) (value : Datum) : Option Draft := do
  let root ← Entries.update false (Entries.assign path key value) d.path .header d.root
  return { d with root }

/-- Goes on with the table of a header; `member` asks for one more table in a row. -/
def startTable (d : Draft) (member : Bool) (parts : List String) : Option Draft := do
  let (path, key) ← splitLast parts
  let root ← if member then d.root.openMember path key else d.root.openTable path key
  return { root, path := parts }

end Draft

/-- Reads a header after its opening brackets, and the rest of its line. -/
def header? (d : Draft) (member : Bool) (s : List Char) : Option (Draft × List Char) := do
  let (parts, s) ← key? maxNesting s
  let s ← match member, s with
    | true, ']' :: ']' :: rest => some rest
    | false, ']' :: rest => some rest
    | _, _ => none
  return (← d.startTable member parts, ← endOfLine? s)

/-- Reads one line that is not blank; its blanks in front are read already. -/
def line? (d : Draft) (s : List Char) : Option (Draft × List Char) :=
  match s with
  | '#' :: _ | '\n' :: _ | '\r' :: _ => (endOfLine? s).map fun rest => (d, rest)
  | '[' :: '[' :: rest => header? d true rest
  | '[' :: rest => header? d false rest
  | _ => do
    let ((path, key, value), s) ← pair? (value? maxNesting) s
    return (← d.addPair path key value, ← endOfLine? s)

def lines? : Nat → Draft → List Char → Option Draft
  | 0, _, _ => none
  | n + 1, d, s =>
    match skipBlanks s with
    | [] => some d
    | s => do
      let (d, rest) ← line? d s
      lines? n d rest

/-- The table that a text describes. A mark of the byte order may stand in front. -/
def parse (text : String) : Option Datum := do
  let s := match text.toList with
    | '\ufeff' :: rest => rest
    | s => s
  let d ← lines? (s.length + 1) {} s
  return .table (Entries.data d.root)

end ServletFilters.Toml
