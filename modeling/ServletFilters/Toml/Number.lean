import ServletFilters.Data.Datum
import ServletFilters.Text.Numeral
import ServletFilters.Toml.Lexis

/-!
# Numbers in TOML

Whole numbers of 64 bits, in base ten with a sign or in base sixteen, eight or two without one,
and numbers with a fraction or an exponent, of which only the size is looked at.
-/

namespace ServletFilters.Toml

/-- A sign in front; whether it is a minus. -/
def sign : List Char → Bool × List Char
  | '-' :: rest => (true, rest)
  | '+' :: rest => (false, rest)
  | s => (false, s)

/-- The digits of a whole number: a zero stands alone. -/
def wholeDigits? : Reader (List Nat)
  | '0' :: rest => some ([0], rest)
  | s => digits? 10 s

def decimal? (s : List Char) : Option (Datum × List Char) := do
  let (negative, rest) := sign s
  let (digits, rest) ← wholeDigits? rest
  let n := valueOf 10 digits
  if negative then if n ≤ Text.wordSize 63 then some (.integer (-n), rest) else none
  else if n < Text.wordSize 63 then some (.integer n, rest) else none

/-- A whole number in another base, after the sign of the base. -/
def based? (base : Nat) (s : List Char) : Option (Datum × List Char) := do
  let (digits, rest) ← digits? base s
  let n := valueOf base digits
  if n < Text.wordSize 63 then some (.integer n, rest) else none

def integer? : Reader Datum
  | '0' :: 'x' :: rest => based? 16 rest
  | '0' :: 'o' :: rest => based? 8 rest
  | '0' :: 'b' :: rest => based? 2 rest
  | s => decimal? s

/-- The smallest number too large for a binary number with eleven bits of exponent. -/
def overflowBound : Nat := Text.wordSize 1024 - Text.wordSize 970

/-- Whether the digits, times a power of ten, are too large. No digits of 308 places are, and
all numbers of 310 places. -/
def overflows (digits : List Nat) (exponent : Int) : Bool :=
  let digits := digits.dropWhile (· = 0)
  let places := digits.length + exponent
  if digits.isEmpty || places < 309 then false
  else if 309 < places then true
  else
    let n := valueOf 10 digits
    if 0 ≤ exponent then overflowBound ≤ n * Nat.pow 10 exponent.toNat
    else overflowBound * Nat.pow 10 (-exponent).toNat ≤ n

/-- A fraction, after its point; `none` if there is no point, and a failure if nothing
follows it. -/
def fraction? : List Char → Option (Option (List Nat) × List Char)
  | '.' :: rest => (digits? 10 rest).map fun r => (some r.1, r.2)
  | s => some (none, s)

/-- An exponent with its letter, in the same way. -/
def exponent? : List Char → Option (Option Int × List Char)
  | c :: rest =>
    if c = 'e' ∨ c = 'E' then do
      let (negative, rest) := sign rest
      let (digits, rest) ← digits? 10 rest
      let n : Int := valueOf 10 digits
      return (some (if negative then -n else n), rest)
    else some (none, c :: rest)
  | [] => some (none, [])

def special? (s : List Char) : Option (Datum × List Char) :=
  match (sign s).2 with
  | 'i' :: 'n' :: 'f' :: rest => some (.fraction, rest)
  | 'n' :: 'a' :: 'n' :: rest => some (.fraction, rest)
  | _ => none

/-- A number. One that is too large is refused, unless it has a minus. -/
def number? (s : List Char) : Option (Datum × List Char) :=
  match special? s with
  | some r => some r
  | none =>
    match s with
    | '0' :: 'x' :: _ | '0' :: 'o' :: _ | '0' :: 'b' :: _ => integer? s
    | _ => do
      let (negative, rest) := sign s
      let (whole, rest) ← wholeDigits? rest
      let (fraction, rest) ← fraction? rest
      let (exponent, rest) ← exponent? rest
      if fraction.isNone && exponent.isNone then integer? s
      else
        let places := fraction.getD []
        if !negative && overflows (whole ++ places) (exponent.getD 0 - places.length) then none
        else some (.fraction, rest)

end ServletFilters.Toml
