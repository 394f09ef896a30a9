/-!
# Request targets

The address in a request line: a path with a query, an address with a scheme and an authority in
front of them, an authority alone, or a star. Of all this only the path with the query is
used, and a fragment is cut off.
-/

namespace ServletFilters.Http

def maxAddress : Nat := 65534

def maxScheme : Nat := 64

/-- The most colons that an authority has in a row of parts. -/
def maxColons : Nat := 8

def isPathChar (c : Char) : Bool :=
  let n := c.toNat
  n == 0x21 || (0x24 ≤ n && n ≤ 0x3b) || n == 0x3d || (0x40 ≤ n && n ≤ 0x5f) ||
    (0x61 ≤ n && n ≤ 0x7e) || n == 0x22 || 0x80 ≤ n

def isQueryChar (c : Char) : Bool :=
  let n := c.toNat
  n == 0x21 || (0x24 ≤ n && n ≤ 0x3b) || n == 0x3d || (0x3f ≤ n && n ≤ 0x7e) || 0x80 ≤ n

def beforeFragment (s : List Char) : List Char := s.takeWhile (· ≠ '#')

def pathAndQuery? (s : List Char) : Option (List Char) :=
  let s := beforeFragment s
  let path := s.takeWhile (· ≠ '?')
  let query := (s.dropWhile (· ≠ '?')).drop 1
  if path.all isPathChar && query.all isQueryChar then some s else none

def isSchemeChar (c : Char) : Bool := c.isAlphanum || c == '+' || c == '-' || c == '.' || c == '~'

inductive AfterScheme where
  /-- There is no scheme. -/
  | none
  | rest (s : List Char)
  | tooLong
  deriving DecidableEq, Repr

def afterScheme (s : List Char) : AfterScheme :=
  let scheme := s.takeWhile isSchemeChar
  match s.dropWhile isSchemeChar with
  | ':' :: '/' :: '/' :: rest => if maxScheme < scheme.length then .tooLong else .rest rest
  | _ => .none

/-- A character of an authority, besides the per cent sign. -/
def isAuthorityChar (c : Char) : Bool :=
  c.isAlphanum || "!$&'()*+,-.:;=@[]_~".toList.contains c

/-- What has been seen of an authority. -/
structure AuthorityScan where
  colons : Nat := 0
  opened : Bool := false
  closed : Bool := false
  /-- Whether a per cent sign was seen after the user and outside of brackets. -/
  percent : Bool := false
  deriving DecidableEq, Repr

/-- Goes on by one character. What stands before an at sign or inside brackets does not count
against the port. -/
def AuthorityScan.next (a : AuthorityScan) (c : Char) : Option AuthorityScan :=
  if c = ':' then if maxColons ≤ a.colons then none else some { a with colons := a.colons + 1 }
  else if c = '[' then if a.percent || a.opened then none else some { a with opened := true }
  else if c = ']' then
    if !a.opened || a.closed then none
    else some { a with closed := true, colons := 0, percent := false }
  else if c = '@' then some { a with colons := 0, percent := false }
  else if c = '%' then some { a with percent := true }
  else if isAuthorityChar c then some a
  else none

def isAuthority (s : List Char) : Bool :=
  match s.foldlM AuthorityScan.next {} with
  | some a => a.opened == a.closed && a.colons ≤ 1 && !a.percent && s.getLast? != some '@'
  | none => false

def endsAuthority (c : Char) : Bool := c == '/' || c == '?' || c == '#'

/-- The path with the query in an address that has a scheme, a path that may be missing too. -/
def absoluteTarget? (s : List Char) : Option (List Char) :=
  let authority := s.takeWhile fun c => !endsAuthority c
  if authority.isEmpty || !isAuthority authority then none
  else (pathAndQuery? (s.dropWhile fun c => !endsAuthority c)).map fun target =>
    if target.isEmpty then ['/'] else target

/-- The path with the query that an address asks for. An authority alone asks for the root. -/
def target? (address : String) : Option String :=
  let s := address.toList
  if address.isEmpty || maxAddress < address.utf8ByteSize then none
  else if address = "*" then some "*"
  else if s.head? = some '/' then (pathAndQuery? s).map String.ofList
  else match afterScheme s with
    | .rest rest => (absoluteTarget? rest).map String.ofList
    | .tooLong => none
    | .none => if isAuthority s then some "/" else none

end ServletFilters.Http
