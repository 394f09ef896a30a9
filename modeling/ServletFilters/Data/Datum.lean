import ServletFilters.Data.Dict
import ServletFilters.Text.Numeral

/-!
# Plain data

Values as data formats write them, before it is known what they mean. A record may be written
as a table with named parts or as an array with its parts in order; a reader asks for each part
by place and by name, and `parts?_table` and `parts?_array` say what it gets.
-/

namespace ServletFilters

inductive Datum where
  | null
  | text (s : String)
  | integer (n : Int)
  /-- A number with a fraction or an exponent; no setting takes one. -/
  | fraction
  | flag (b : Bool)
  /-- A date, a time, or both. -/
  | moment (s : String)
  | array (items : List Datum)
  | table (entries : List (String × Datum))
  deriving Repr, Inhabited

namespace Datum

/-- The name under which a moment appears where a table is asked for. -/
def momentKey : String := "$__toml_private_datetime"

def text? : Datum → Option String
  | .text s => some s
  | _ => none

def flag? : Datum → Option Bool
  | .flag b => some b
  | _ => none

/-- A number of 64 bits without a sign. -/
def natural? : Datum → Option Nat
  | .integer n => if 0 ≤ n ∧ n.toNat < Text.wordSize 64 then some n.toNat else none
  | _ => none

def optional? (read : Datum → Option α) : Datum → Option (Option α)
  | .null => some none
  | d => (read d).map some

def list? (read : Datum → Option α) : Datum → Option (List α)
  | .array items => items.mapM read
  | _ => none

/-- Texts by name, in the order of the names. -/
def texts? (d : Datum) : Option (Dict String String) :=
  let sorted (pairs : List (String × String)) : Dict String String :=
    .ofList (pairs.mergeSort fun a b => !(decide (b.1 < a.1)))
  match d with
  | .table entries =>
    (entries.mapM fun (e : String × Datum) => e.2.text?.map fun s => (e.1, s)).map sorted
  | .moment s => some (sorted [(momentKey, s)])
  | _ => none

abbrev Parts := Nat → String → Option Datum

/-- A record. A moment is a record without any part that is asked for. -/
def parts? : Datum → Option Parts
  | .table entries => some fun _ name => entries.lookup name
  | .array items => some fun place _ => items[place]?
  | .moment _ => some fun _ _ => none
  | _ => none

def Parts.need (parts : Parts) (place : Nat) (name : String) (read : Datum → Option α) : Option α :=
  (parts place name).bind read

/-- A part, or a value that stands for it where it is missing. -/
def Parts.get (parts : Parts) (place : Nat) (name : String) (read : Datum → Option α) (usual : α) :
    Option α :=
  match parts place name with
  | some d => read d
  | none => some usual

theorem parts?_table (entries : List (String × Datum)) :
    (Datum.table entries).parts? = some fun _ name => entries.lookup name := rfl

theorem parts?_array (items : List Datum) :
    (Datum.array items).parts? = some fun place _ => items[place]? := rfl

end Datum

end ServletFilters
