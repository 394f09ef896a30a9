import ServletFilters.Journal.Event

/-!
# Reports from the journal

The three readings of a journal: what was shown, what was counted and what was logged. The
order in which the components of one registry are destroyed carries no meaning, so a run of
destructions is shown in the order of the quoted names.
-/

namespace ServletFilters

inductive Shown where
  | constructing (name : String) (count : Nat)
  | destroyed (name : String)
  | observed (who : String) (value : Observation)
  | executed (operation : Operation) (principal : Option String)

structure Metrics where
  counters : Dict String Nat := {}
  chainLengths : List Nat := []

namespace Journal

def orderKey (name : String) : List Char :=
  let escape (c : Char) : List Char :=
    if c = '"' ∨ c = '\\' then ['\\', c]
    else if c = '\x08' then ['\\', 'b']
    else if c = '\x0c' then ['\\', 'f']
    else if c = '\n' then ['\\', 'n']
    else if c = '\r' then ['\\', 'r']
    else if c = '\t' then ['\\', 't']
    else if c.toNat < 0x20 then
      ['\\', 'u', '0', '0'] ++ (if c.toNat < 0x10 then ['0'] else []) ++ Text.hex c.toNat
    else [c]
  name.toList.flatMap escape ++ ['"']

def sortNames (names : List String) : List String :=
  names.mergeSort fun a b => !(decide (orderKey b < orderKey a))

def show? : Event → Option Shown
  | .constructing name count => some (.constructing name count)
  | .destroyed _ name true => some (.destroyed name)
  | .observed who value => some (.observed who value)
  | .executed operation principal => some (.executed operation principal)
  | _ => none

/-- Runs of destructions in the order of the names; `run` holds the run that is being read. -/
def settle (run : List String) : List Shown → List Shown
  | [] => (sortNames run).map .destroyed
  | .destroyed name :: rest => settle (name :: run) rest
  | event :: rest => (sortNames run).map .destroyed ++ event :: settle [] rest

/-- What the events show; the journal is newest first, the answer oldest first. -/
def shown (journal : List Event) : List Shown := settle [] (journal.reverse.filterMap show?)

def logs (journal : List Event) : List LogEntry :=
  journal.reverse.filterMap fun
    | .logged entry => some entry
    | _ => none

def measurements (journal : List Event) : List Measurement :=
  journal.reverse.filterMap fun
    | .measured m => some m
    | _ => none

end Journal

def Measurement.counter : Measurement → String
  | .chainBuilt _ => "pipeline_chains_built_total"
  | .filterInvoked name => "pipeline_filter_invocations_total\x7bfilter=" ++ name ++ "\x7d"
  | .servletInvoked => "pipeline_servlet_invocations_total"
  | .chainFailed kind => "pipeline_chain_failures_total\x7bkind=" ++ kind.name ++ "\x7d"
  | .poolAcquired hit =>
    "pipeline_pool_acquire_total\x7boutcome=" ++ (if hit then "hit" else "miss") ++ "\x7d"

namespace Metrics

def add (m : Metrics) (x : Measurement) : Metrics :=
  { counters := m.counters.insert x.counter ((m.counters.find? x.counter).getD 0 + 1)
    chainLengths := match x with
      | .chainBuilt length => m.chainLengths ++ [length]
      | _ => m.chainLengths }

def ofJournal (journal : List Event) : Metrics := (Journal.measurements journal).foldl add {}

end Metrics

end ServletFilters
