import ServletFilters.Data.Datum

/-!
# Tables under construction

A TOML text builds its tables by headers, by dotted keys and by values, and which of them may be
extended depends on how they came about: a table is given by a header at most once, a dotted key
never reaches into a table that a header gave, and a value is complete where it stands.
-/

namespace ServletFilters.Toml

inductive Origin where
  /-- A header, or the text as a whole. -/
  | header
  /-- The path of a header that goes further. -/
  | passed
  /-- A dotted key. -/
  | dotted
  deriving DecidableEq, Repr

inductive Node where
  | value (d : Datum)
  | table (origin : Origin) (entries : List (String × Node))
  /-- Tables in a row, the last one first. -/
  | tables (members : List (List (String × Node)))
  deriving Inhabited

abbrev Entries := List (String × Node)

namespace Entries

def find? : Entries → String → Option Node
  | [], _ => none
  | (k, n) :: rest, key => if k = key then some n else find? rest key

def put (entries : Entries) (key : String) (node : Node) : Entries :=
  if (find? entries key).isSome then
    entries.map fun e => if e.1 = key then (key, node) else e
  else entries ++ [(key, node)]

/-- Changes the table at the end of a path, and makes the tables that are missing on the way.
The path goes through the last one of tables in a row; where it is part of a dotted key, it does
not go through tables given by a header. -/
def update (dotted : Bool) (change : Origin → Entries → Option Entries) :
    List String → Origin → Entries → Option Entries
  | [], origin, entries => change origin entries
  | key :: path, _, entries => do
    match find? entries key with
    | none =>
      let origin := if dotted then .dotted else .passed
      let inner ← update dotted change path origin []
      return put entries key (.table origin inner)
    | some (.table origin inner) =>
      if dotted && origin = .header then none
      else return put entries key (.table origin (← update dotted change path origin inner))
    | some (.tables (last :: others)) =>
      return put entries key (.tables ((← update dotted change path .header last) :: others))
    | some _ => none

/-- Gives a value to a key that has none. A dotted key gives values to tables of dotted keys
only, and a key without dots to no such table. -/
def assign (path : List String) (key : String) (value : Datum) (origin : Origin)
    (entries : Entries) : Option Entries :=
  update true
    (fun origin entries =>
      if decide (origin = .dotted) == path.isEmpty then none
      else if (find? entries key).isSome then none
      else some (entries ++ [(key, .value value)]))
    path origin entries

def openTable (path : List String) (key : String) (root : Entries) : Option Entries :=
  update false
    (fun _ entries =>
      match find? entries key with
      | none => some (put entries key (.table .header []))
      | some (.table .passed inner) => some (put entries key (.table .header inner))
      | some _ => none)
    path .header root

def openMember (path : List String) (key : String) (root : Entries) : Option Entries :=
  update false
    (fun _ entries =>
      match find? entries key with
      | none => some (put entries key (.tables [[]]))
      | some (.tables members) => some (put entries key (.tables ([] :: members)))
      | some _ => none)
    path .header root

end Entries

mutual
def Node.datum : Node → Datum
  | .value d => d
  | .table _ entries => .table (Entries.data entries)
  | .tables members => .array (Entries.rows members).reverse
def Entries.data : List (String × Node) → List (String × Datum)
  | [] => []
  | (key, node) :: rest => (key, node.datum) :: Entries.data rest
def Entries.rows : List (List (String × Node)) → List Datum
  | [] => []
  | entries :: rest => .table (Entries.data entries) :: Entries.rows rest
end

end ServletFilters.Toml
