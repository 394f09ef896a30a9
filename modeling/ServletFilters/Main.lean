import ServletFilters.CommandLine.Answer

/-!
# The command line tool

Shows what a configuration means without starting a server.
-/

/-- The content of a file, if it can be read. -/
def readContent (path : String) : IO (Option String) := do
  try
    return some (← IO.FS.readFile path)
  catch _ => return none

def main (words : List String) : IO UInt32 := do
  let outcome ← ServletFilters.CommandLine.respond readContent words
  IO.print outcome.output
  if outcome.code = 2 then
    IO.eprintln "For more information, try '--help'."
  else if outcome.code = 1 then
    IO.eprintln "Error: the configuration cannot be used"
  return outcome.code.toUInt32
