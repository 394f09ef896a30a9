import ServletFilters.Text.Folding

/-!
# The characters of HTTP messages

Tokens, which name methods and headers, and the bytes that a header value may hold. Header
names are kept in small letters.
-/

namespace ServletFilters.Http

def isTokenChar (c : Char) : Bool := c.isAlphanum || "!#$%&'*+-.^_`|~".toList.contains c

def isToken (s : String) : Bool := !s.isEmpty && s.toList.all isTokenChar

def maxHeaderName : Nat := 65535

def headerName? (s : String) : Option String :=
  if isToken s && s.length ≤ maxHeaderName then some (String.ofList (Text.fold s)) else none

def isFieldByte (b : UInt8) : Bool := b == 9 || (32 ≤ b && b != 127)

/-- A byte of a header value that is read as text. -/
def isTextByte (b : UInt8) : Bool := b == 9 || (32 ≤ b && b < 127)

def isFieldChar (c : Char) : Bool := c == '\t' || (0x20 ≤ c.toNat && c.toNat != 0x7f)

def isFieldText (s : String) : Bool := s.toList.all isFieldChar

def fieldText? (value : List UInt8) : Option String :=
  if value.all isTextByte then some (String.ofList (value.map fun b => Char.ofNat b.toNat)) else none

theorem isFieldByte_of_isTextByte {b : UInt8} (h : isTextByte b = true) : isFieldByte b = true := by
  simp only [isTextByte, isFieldByte, Bool.or_eq_true, Bool.and_eq_true, decide_eq_true_eq,
    beq_iff_eq, bne_iff_ne, ne_eq] at h ⊢
  refine h.imp id fun ⟨low, high⟩ => ⟨low, ?_⟩
  rintro rfl
  exact absurd high (by decide)

end ServletFilters.Http
