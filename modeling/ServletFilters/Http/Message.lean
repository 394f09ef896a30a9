import ServletFilters.Exchange.Fields
import ServletFilters.Http.Syntax
import ServletFilters.Http.Uri
import ServletFilters.Routing.Resolution

/-!
# HTTP messages

Requests as they come in and responses as they go out. The headers of a request are listed name
by name, in the order in which the names first appear.
-/

namespace ServletFilters.Http

structure Incoming where
  method : String
  /-- The path with the query. -/
  target : String
  headers : List (String × List UInt8) := []
  body : List UInt8 := []
  /-- Why the body could not be read to its end. -/
  bodyFailure : Option String := none
  deriving DecidableEq, Repr

/-- Pairs name by name, the names in order of first appearance. -/
def grouped (headers : List (String × α)) : List (String × α) :=
  (firsts (headers.map (·.1))).flatMap fun name => headers.filter fun h => h.1 == name

def header? (name : String) (value : List UInt8) : Option (String × List UInt8) :=
  if value.all isFieldByte then (headerName? name).map fun name => (name, value) else none

/-- A request, if its method, its address and its headers are allowed. -/
def Incoming.make? (method address : String) (headers : List (String × List UInt8))
    (body : List UInt8) (bodyFailure : Option String) : Option Incoming := do
  let target ← target? address
  let headers ← headers.mapM fun h => header? h.1 h.2
  if isToken method then some { method, target, headers := grouped headers, body, bodyFailure } else none

def Incoming.first? (r : Incoming) (name : String) : Option (List UInt8) := r.headers.lookup name

structure Outgoing where
  status : Nat := 200
  headers : Headers := []
  body : List UInt8 := []
  deriving DecidableEq, Repr

namespace Outgoing

def append (r : Outgoing) (name value : String) : Outgoing :=
  { r with headers := r.headers ++ [(name, value)] }

/-- The response with this header in place of all of its name. -/
def insert (r : Outgoing) (name value : String) : Outgoing :=
  { r with headers := (r.headers.filter fun h => h.1 != name) ++ [(name, value)] }

def values (r : Outgoing) (name : String) : List String :=
  (r.headers.filter fun h => h.1 == name).map (·.2)

end Outgoing

end ServletFilters.Http
