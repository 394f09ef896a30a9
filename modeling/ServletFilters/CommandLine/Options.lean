/-!
# Options on a command line

An option has a long name after two dashes or a letter after one dash; its value stands in the
same word, behind an equals sign or right behind the letter, or is the next word. Words are taken
one after the other, and the first fault or the first request for help decides.
-/

namespace ServletFilters.CommandLine

structure Setting where
  letter : Char
  long : String
  /-- Whether a value is allowed. -/
  allows : String → Bool := fun _ => true

abbrev Given := List (String × String)

inductive Scan where
  | help
  | misuse
  /-- A plain word, the words after it, and an option whose value was the last word before it
  and still has to be accepted. -/
  | word (w : String) (rest : List String) (given : Given) (pending : Option (Setting × String))
  | finished (given : Given)

/-- Accepts a value for an option, which may have one value only. -/
def accept (given : Given) (s : Setting) (value : String) : Option Given :=
  if (given.lookup s.long).isSome || !s.allows value then none else some (given ++ [(s.long, value)])

def settle (given : Given) : Option (Setting × String) → Option Given
  | none => some given
  | some (s, value) => accept given s value

inductive Shape where
  | help
  | unknown
  /-- Two dashes, after which no option follows. -/
  | stop
  | plain
  /-- An option that takes the next word as its value. -/
  | named (s : Setting)
  /-- An option with its value. -/
  | valued (s : Setting) (value : String)

def longShape (settings : List Setting) (body : List Char) : Shape :=
  let name := String.ofList (body.takeWhile (· ≠ '='))
  match body.dropWhile (· ≠ '=') with
  | [] =>
    if name = "help" then .help
    else match settings.find? fun s => s.long == name with
      | some s => .named s
      | none => .unknown
  | _ :: value =>
    match settings.find? fun s => s.long == name with
    | some s => .valued s (String.ofList value)
    | none => .unknown

/-- The shape of a word of one dash, a letter and what follows it. -/
def shortShape (settings : List Setting) (letter : Char) (body : List Char) : Shape :=
  if letter = 'h' then .help
  else match settings.find? fun s => s.letter == letter with
    | none => .unknown
    | some s =>
      match body with
      | [] => .named s
      | '=' :: value => .valued s (String.ofList value)
      | value => .valued s (String.ofList value)

/-- The shape of a word. A dash alone is plain. -/
def shape (settings : List Setting) (w : String) : Shape :=
  match w.toList with
  | ['-', '-'] => .stop
  | '-' :: '-' :: body => longShape settings body
  | '-' :: letter :: body => shortShape settings letter body
  | _ => .plain

def scan (settings : List Setting) (given : Given) (pending : Option (Setting × String)) :
    List String → Scan
  | [] =>
    match settle given pending with
    | some given => .finished given
    | none => .misuse
  | w :: rest =>
    match shape settings w with
    | .plain => .word w rest given pending
    | .stop =>
      match rest, settle given pending with
      | [], some given => .finished given
      | _, _ => .misuse
    | .unknown => .misuse
    | .help => if (settle given pending).isSome then .help else .misuse
    | .valued s value =>
      match (settle given pending).bind fun given => accept given s value with
      | some given => scan settings given none rest
      | none => .misuse
    | .named s =>
      match settle given pending with
      | none => .misuse
      | some given =>
        match rest with
        | [] => .misuse
        | value :: rest =>
          match shape settings value with
          | .plain => scan settings given (some (s, value)) rest
          | _ => .misuse

end ServletFilters.CommandLine
