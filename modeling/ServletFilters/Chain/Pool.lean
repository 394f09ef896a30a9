import ServletFilters.Chain.Basic

/-!
# Chain pools

Idle chains, kept by servlet name, at most a given number for each. A chain is emptied when it
is given back.
-/

namespace ServletFilters

/-- The idle chains of each servlet, the last one given back first. -/
structure ChainPool where
  idle : Dict String (List Chain) := {}
  maxIdle : Nat := 64
  deriving Inhabited

namespace ChainPool

def chains (p : ChainPool) (servlet : String) : List Chain := (p.idle.find? servlet).getD []

/-- Takes out the chain that was given back last, if there is one. -/
def acquire (p : ChainPool) (servlet : String) : Option Chain × ChainPool :=
  match p.chains servlet with
  | [] => (none, p)
  | chain :: rest => (some chain, { p with idle := p.idle.insert servlet rest })

/-- Takes back a chain, unless the servlet has enough idle ones. -/
def giveBack (p : ChainPool) (servlet : String) (chain : Chain) : ChainPool :=
  if (p.chains servlet).length < p.maxIdle then
    { p with idle := p.idle.insert servlet (chain.release :: p.chains servlet) }
  else p

def idleCount (p : ChainPool) (servlet : String) : Nat := (p.chains servlet).length

def clear (p : ChainPool) : ChainPool := { p with idle := {} }

end ChainPool

end ServletFilters
