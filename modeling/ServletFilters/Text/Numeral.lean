/-!
# Decimal numerals

Readers of whole numbers: digits with an optional sign, nothing else around them.
-/

namespace ServletFilters.Text

/-- The number of values of so many bits. -/
def wordSize (bits : Nat) : Nat := 1 <<< bits

theorem wordSize_eq (bits : Nat) : wordSize bits = Nat.pow 2 bits := by
  simp [wordSize, Nat.shiftLeft_eq]

def digits? (cs : List Char) : Option Nat :=
  if cs.isEmpty || !cs.all Char.isDigit then none
  else some (cs.foldl (fun n c => n * 10 + (c.toNat - '0'.toNat)) 0)

def unsigned? (bits : Nat) (s : String) : Option Nat :=
  let body := match s.toList with
    | '+' :: rest => rest
    | cs => cs
  (digits? body).filter (· < wordSize bits)

def integer? (s : String) : Option Int :=
  match s.toList with
  | '-' :: rest => ((digits? rest).filter (· ≤ wordSize 63)).map fun n => -(n : Int)
  | '+' :: rest => ((digits? rest).filter (· < wordSize 63)).map Int.ofNat
  | cs => ((digits? cs).filter (· < wordSize 63)).map Int.ofNat

end ServletFilters.Text
