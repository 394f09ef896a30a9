import ServletFilters.Data.Dict
import ServletFilters.Text.Folding
import ServletFilters.Text.Split

/-!
# Headers and parameters

Headers are pairs in order. Names are compared ignoring ASCII case; `set` leaves one pair for
its name, `add` keeps those already there.

A query is a list of `name=value` pairs between ampersands. Empty pieces are skipped, a piece
without `=` has the empty value, and the last pair of a name counts.
-/

namespace ServletFilters

abbrev Headers := List (String × String)

namespace Headers

/-- The first value of a name. -/
def get? (h : Headers) (name : String) : Option String :=
  (h.find? fun e => Text.equalFold e.1 name).map (·.2)

def add (h : Headers) (name value : String) : Headers := h ++ [(name, value)]

/-- The list in which this pair is the only one of its name. -/
def set (h : Headers) (name value : String) : Headers :=
  h.filter (fun e => !Text.equalFold e.1 name) ++ [(name, value)]

end Headers

end ServletFilters

namespace ServletFilters.Query

/-- The name and value of a piece; only the first `=` separates them. -/
def pair (piece : List Char) : String × String :=
  match Text.cut '=' piece with
  | some (name, value) => (String.ofList name, String.ofList value)
  | none => (String.ofList piece, "")

def pairs (query : List Char) : List (String × String) :=
  ((Text.pieces '&' query).filter fun piece => !piece.isEmpty).map pair

def parse (query : String) : Dict String String := .ofList (pairs query.toList)

end ServletFilters.Query
