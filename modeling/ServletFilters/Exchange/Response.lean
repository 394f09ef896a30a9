import ServletFilters.Exchange.Fields
import ServletFilters.Text.Quoted

/-!
# Responses

A response collects a status, headers and a body while components run.
-/

namespace ServletFilters

structure Response where
  /-- Tells this response from all others of the same content. -/
  serial : Nat := 0
  status : UInt16 := 200
  headers : Headers := []
  body : List UInt8 := []
  deriving Repr, Inhabited

namespace Response

def write (r : Response) (bytes : List UInt8) : Response := { r with body := r.body ++ bytes }

/-- The response with this pair as the only one of its name. -/
def setHeader (r : Response) (name value : String) : Response :=
  { r with headers := r.headers.set name value }

def addHeader (r : Response) (name value : String) : Response :=
  { r with headers := r.headers.add name value }

def resetBuffer (r : Response) : Response := { r with body := [] }

def shown (r : Response) : String :=
  Text.shownRecord "ServletResponse" [("status", toString r.status.toNat)]

end Response

def utf8 (text : String) : List UInt8 := text.toUTF8.toList

end ServletFilters
