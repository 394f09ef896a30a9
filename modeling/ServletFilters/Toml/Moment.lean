import ServletFilters.Data.Datum
import ServletFilters.Toml.Lexis

/-!
# Dates and times in TOML

A date, a time of day, or both with or without an offset. `Moment.shown` is the one form in
which each is written again.
-/

namespace ServletFilters.Toml

structure Date where
  year : Nat
  month : Nat
  day : Nat
  deriving DecidableEq, Repr

structure Time where
  hour : Nat
  minute : Nat
  second : Nat
  nanosecond : Nat := 0
  deriving DecidableEq, Repr

inductive Offset where
  | universal
  | minutes (n : Int)
  deriving DecidableEq, Repr

structure Moment where
  date : Option Date := none
  time : Option Time := none
  offset : Option Offset := none
  deriving DecidableEq, Repr

def lastDay (year month : Nat) : Nat :=
  if month = 2 then
    if year % 4 = 0 ∧ (year % 100 ≠ 0 ∨ year % 400 = 0) then 29 else 28
  else if month ∈ [4, 6, 9, 11] then 30 else 31

def fixed? (count low high : Nat) (s : List Char) : Option (Nat × List Char) := do
  let digits ← (s.take count).mapM (digitOf? 10)
  let n := valueOf 10 digits
  if digits.length = count ∧ low ≤ n ∧ n ≤ high then some (n, s.drop count) else none

def mark? (mark : Char) : List Char → Option (List Char)
  | c :: rest => if c = mark then some rest else none
  | [] => none

def date? (s : List Char) : Option (Date × List Char) := do
  let (year, s) ← fixed? 4 0 9999 s
  let s ← mark? '-' s
  let (month, s) ← fixed? 2 1 12 s
  let s ← mark? '-' s
  let (day, s) ← fixed? 2 1 31 s
  if day ≤ lastDay year month then some ({ year, month, day }, s) else none

/-- The nanoseconds that a fraction of a second writes; digits past the ninth do not count. -/
def nanoseconds (digits : List Nat) : Nat := valueOf 10 ((digits ++ List.replicate 9 0).take 9)

def secondFraction (s : List Char) : Nat × List Char :=
  match s with
  | '.' :: rest =>
    match (rest.takeWhile Char.isDigit).mapM (digitOf? 10) with
    | some (d :: digits) => (nanoseconds (d :: digits), rest.dropWhile Char.isDigit)
    | _ => (0, s)
  | _ => (0, s)

def time? (s : List Char) : Option (Time × List Char) := do
  let (hour, s) ← fixed? 2 0 23 s
  let s ← mark? ':' s
  let (minute, s) ← fixed? 2 0 59 s
  let s ← mark? ':' s
  let (second, s) ← fixed? 2 0 60 s
  let (nanosecond, s) := secondFraction s
  return ({ hour, minute, second, nanosecond }, s)

/-- An offset, if one follows; a sign without one is a failure. -/
def offset? : List Char → Option (Option Offset × List Char)
  | c :: rest =>
    if c = 'Z' ∨ c = 'z' then some (some .universal, rest)
    else if c = '+' ∨ c = '-' then do
      let (hour, rest) ← fixed? 2 0 23 rest
      let rest ← mark? ':' rest
      let (minute, rest) ← fixed? 2 0 59 rest
      let n : Int := hour * 60 + minute
      return (some (.minutes (if c = '-' then -n else n)), rest)
    else some (none, c :: rest)
  | [] => some (none, [])

/-- The time behind a date: after `T` or a blank, if a time follows. -/
def timeAfter (s : List Char) : Option (Time × List Char) :=
  match s with
  | c :: rest => if c = 'T' ∨ c = 't' ∨ c = ' ' then time? rest else none
  | [] => none

def moment? (s : List Char) : Option (Moment × List Char) :=
  match date? s with
  | some (date, rest) =>
    match timeAfter rest with
    | some (time, rest) => (offset? rest).map fun r =>
        ({ date := some date, time := some time, offset := r.1 }, r.2)
    | none => some ({ date := some date }, rest)
  | none => (time? s).map fun r => ({ time := some r.1 }, r.2)

def padded (count n : Nat) : String :=
  let digits := Nat.toDigits 10 n
  String.ofList (List.replicate (count - digits.length) '0' ++ digits)

def Date.shown (d : Date) : String := padded 4 d.year ++ "-" ++ padded 2 d.month ++ "-" ++ padded 2 d.day

/-- The written form of a time; the fraction ends with its last digit that is not zero. -/
def Time.shown (t : Time) : String :=
  let fraction := ((padded 9 t.nanosecond).toList.reverse.dropWhile (· = '0')).reverse
  padded 2 t.hour ++ ":" ++ padded 2 t.minute ++ ":" ++ padded 2 t.second ++
    (if t.nanosecond = 0 then "" else "." ++ String.ofList fraction)

def Offset.shown : Offset → String
  | .universal => "Z"
  | .minutes n =>
    (if n < 0 then "-" else "+") ++ padded 2 (n.natAbs / 60) ++ ":" ++ padded 2 (n.natAbs % 60)

def Moment.shown (m : Moment) : String :=
  let join := if m.date.isSome && m.time.isSome then "T" else ""
  (m.date.map Date.shown).getD "" ++ join ++ (m.time.map Time.shown).getD "" ++
    (m.offset.map Offset.shown).getD ""

end ServletFilters.Toml
