/-!
# Socket addresses

Numeric addresses with a port: four decimal numbers, or up to eight hexadecimal ones in brackets.
-/

namespace ServletFilters.Http.SocketAddress

abbrev Reader (α : Type) := List Char → Option (α × List Char)

/-- A number of one to so many digits in a base, up to a bound. -/
def number? (digit : Char → Option Nat) (base maxDigits bound : Nat) (leadingZeros : Bool) :
    Reader Nat := fun s =>
  let digits := (s.takeWhile fun c => (digit c).isSome)
  let values := digits.filterMap digit
  let n := values.foldl (fun n d => n * base + d) 0
  if values.isEmpty || maxDigits < values.length || bound < n then none
  else if !leadingZeros && 1 < values.length && values.head? = some 0 then none
  else some (n, s.drop values.length)

def decimal (c : Char) : Option Nat := if c.isDigit then some (c.toNat - '0'.toNat) else none

def hexadecimal (c : Char) : Option Nat :=
  if c.isDigit then some (c.toNat - '0'.toNat)
  else if 'a' ≤ c ∧ c ≤ 'f' then some (c.toNat - 'a'.toNat + 10)
  else if 'A' ≤ c ∧ c ≤ 'F' then some (c.toNat - 'A'.toNat + 10)
  else none

def after? (c : Char) : List Char → Option (List Char)
  | d :: rest => if c = d then some rest else none
  | [] => none

def octet? : Reader Nat := number? decimal 10 3 255 false

def quad? (s : List Char) : Option (List Char) := do
  let (_, s) ← octet? s
  let (_, s) ← octet? (← after? '.' s)
  let (_, s) ← octet? (← after? '.' s)
  let (_, s) ← octet? (← after? '.' s)
  return s

def port? (s : List Char) : Option (List Char) := do
  let (_, s) ← number? decimal 10 s.length 65535 true (← after? ':' s)
  return s

def group? : Reader Nat := number? hexadecimal 16 4 0xffff true

/-- Reads numbers with colons between them, and a quad in place of the last two; gives how many
places were filled and whether a quad filled the last ones. `left` places are free. -/
def groups : Nat → Nat → List Char → Nat × Bool × List Char
  | 0, read, s => (read, false, s)
  | left + 1, read, s =>
    let start := if read = 0 then some s else after? ':' s
    match (if left = 0 then none else start.bind quad?), start.bind group? with
    | some rest, _ => (read + 2, true, rest)
    | none, some (_, rest) => groups left (read + 1) rest
    | none, none => (read, false, s)

/-- An address of eight numbers, where two colons stand for any number of zeros. -/
def long? (s : List Char) : Option (List Char) :=
  match groups 8 0 s with
  | (count, quad, rest) =>
    if count = 8 then some rest
    else if quad then none
    else match rest with
      | ':' :: ':' :: rest => some (groups (7 - count) 0 rest).2.2
      | _ => none

/-- The number of an interface, after its per cent sign, if there is one. -/
def scope (s : List Char) : List Char :=
  match after? '%' s with
  | some rest =>
    match number? decimal 10 rest.length 0xffffffff true rest with
    | some (_, rest) => rest
    | none => s
  | none => s

def bracketed? (s : List Char) : Option (List Char) := do
  let s ← long? (← after? '[' s)
  after? ']' (scope s)

def isValid (s : String) : Bool :=
  ((quad? s.toList).bind port? == some []) || ((bracketed? s.toList).bind port? == some [])

end ServletFilters.Http.SocketAddress
