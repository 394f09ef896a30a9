import ServletFilters.Http.Server
import ServletFilters.Lifecycle.Watcher

/-!
# Watching and reloading

A watcher and the server that it watches for. Each configuration that the watcher sends is given to
the pipeline before the file is read again. When a component breaks off a reload, the reloader is
gone, and the watcher can send nothing more.
-/

namespace ServletFilters

inductive Verdict where
  | accepted
  | rejected
  /-- A component broke off the reload. -/
  | brokenOff
  deriving DecidableEq, Repr

structure Supervision where
  watcher : Watcher
  server : Http.Server
  box : Container
  /-- The configurations that were sent, the last one first, and what became of them. -/
  sent : List (Config × Verdict) := []

namespace Supervision

def start (config : Config) (components : ComponentFactory) (pipeline : Nat) (box : Container) :
    Supervision where
  watcher := { components, current := config }
  server := { config, pipeline }
  box

def isOpen (s : Supervision) : Bool := s.sent.all fun e => e.2 ≠ .brokenOff

def apply (s : Supervision) (config : Config) : Verdict × Container :=
  match s.server.update config s.box with
  | (.ok true, box) => (.accepted, box)
  | (.ok false, box) => (.rejected, box)
  | (.error _, box) => (.brokenOff, box)

def reread (s : Supervision) (content : Option String) : Supervision :=
  if s.isOpen then
    match s.watcher.reread content with
    | (none, watcher) => { s with watcher }
    | (some config, watcher) =>
      let (verdict, box) := s.apply config
      { s with watcher, box, sent := (config, verdict) :: s.sent }
  else s

/-- The configuration that was sent last, or else the one that the server started with. -/
def offered (s : Supervision) : Config := (s.sent.head?.map (·.1)).getD s.server.config

/-- The configuration that was accepted last, or else the one that the server started with. -/
def running (s : Supervision) : Config :=
  ((s.sent.find? fun e => e.2 = .accepted).map (·.1)).getD s.server.config

end Supervision

end ServletFilters
