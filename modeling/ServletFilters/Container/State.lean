import ServletFilters.Chain.Pool
import ServletFilters.Journal.Event

/-!
# Containers

The state in which components run: the exchange that is going on, the chain it is in, the
pipelines, and what is alive. A computation on it, a `Run`, ends with a value or is cut short,
and either way leaves a state behind.
-/

namespace ServletFilters

/-- A running service: the current registry and what every traversal uses. -/
structure Pipeline where
  registry : Registry
  components : ComponentFactory
  pool : ChainPool := {}
  executor : Option Executor := none
  trackLastServiced : Bool := false
  deriving Inhabited

structure Container where
  /-- The next number for an object that is told apart by number. -/
  nextSerial : Nat := 1
  request : Request := {}
  response : Response := {}
  /-- The request and the response on record as being serviced, by their numbers. -/
  lastServiced : Option (Nat × Nat) := none
  /-- The chain that the exchange is in. -/
  chain : Chain := {}
  /-- The number of traversals that are going on, each inside the one before. -/
  nesting : Nat := 0
  /-- The filters that are made and not yet destroyed, by the number of their declaration. -/
  instances : Dict Nat Component := {}
  /-- The registries that are in use, once for each holder. -/
  holders : List Nat := []
  /-- What components keep from one call to the next, by their numbers. -/
  memory : Dict Nat String := {}
  /-- How many announced components of a name were made. -/
  constructions : Dict String Nat := {}
  pipelines : Dict Nat Pipeline := {}
  /-- What happened, newest first. -/
  journal : List Event := []
  deriving Inhabited

inductive Halt where
  /-- A component broke off all that was going on. -/
  | panic (message : String)
  /-- Components called each other more deeply than was allowed. -/
  | exhausted
  deriving DecidableEq, Repr

def Run (α : Type) : Type := Container → Except Halt α × Container

namespace Run

instance : Monad Run where
  pure a := fun s => (.ok a, s)
  bind x f := fun s =>
    match x s with
    | (.ok a, t) => f a t
    | (.error h, t) => (.error h, t)

instance : MonadStateOf Container Run where
  get := fun s => (.ok s, s)
  set t := fun _ => (.ok (), t)
  modifyGet f := fun s => let (a, t) := f s; (.ok a, t)

def halt (h : Halt) : Run α := fun s => (.error h, s)

/-- A computation, and a clean-up of the state however it ends. -/
def cleanedBy (body : Run α) (cleanUp : Container → Container) : Run α := fun s =>
  let (r, t) := body s
  (r, cleanUp t)

@[simp] theorem pure_apply (a : α) (s : Container) : (pure a : Run α) s = (.ok a, s) := rfl

@[simp] theorem bind_apply (x : Run α) (f : α → Run β) (s : Container) :
    (x >>= f) s = match x s with
      | (.ok a, t) => f a t
      | (.error h, t) => (.error h, t) := rfl

@[simp] theorem get_apply (s : Container) : (get : Run Container) s = (.ok s, s) := rfl

@[simp] theorem set_apply (s t : Container) : (set t : Run PUnit) s = (.ok (), t) := rfl

@[simp] theorem modify_apply (f : Container → Container) (s : Container) :
    (modify f : Run PUnit) s = (.ok (), f s) := rfl

@[simp] theorem get_bind_apply (f : Container → Run β) (s : Container) :
    ((get : Run Container) >>= f) s = f s s := rfl

@[simp] theorem modify_bind_apply (g : Container → Container) (f : PUnit → Run β) (s : Container) :
    ((modify g : Run PUnit) >>= f) s = f ⟨⟩ (g s) := rfl

theorem bind_of_ok {x : Run α} {f : α → Run β} {s t : Container} {a : α} (h : x s = (.ok a, t)) :
    (x >>= f) s = f a t := by rw [bind_apply, h]

theorem bind_of_error {x : Run α} {f : α → Run β} {s t : Container} {e : Halt}
    (h : x s = (.error e, t)) : (x >>= f) s = (.error e, t) := by rw [bind_apply, h]

@[simp] theorem halt_apply (h : Halt) (s : Container) : (halt h : Run α) s = (.error h, s) := rfl

instance : LawfulMonad Run := LawfulMonad.mk' Run
  (by
    intro α x
    funext s
    change (match x s with | (.ok a, t) => (Except.ok a, t) | (.error h, t) => (.error h, t)) = x s
    rcases x s with ⟨_ | _, _⟩ <;> rfl)
  (by intros; rfl)
  (by
    intro α β γ x f g
    funext s
    simp only [bind_apply]
    rcases x s with ⟨_ | _, _⟩ <;> rfl)

end Run

namespace Container

def note (s : Container) (e : Event) : Container := { s with journal := e :: s.journal }

def updateRequest (s : Container) (f : Request → Request) : Container :=
  { s with request := f s.request }

def updateResponse (s : Container) (f : Response → Response) : Container :=
  { s with response := f s.response }

def updateChain (s : Container) (f : Chain → Chain) : Container := { s with chain := f s.chain }

def updatePipeline (s : Container) (p : Nat) (f : Pipeline → Pipeline) : Container :=
  match s.pipelines.find? p with
  | some pipeline => { s with pipelines := s.pipelines.insert p (f pipeline) }
  | none => s

/-- The state with a new exchange in place of the current one. -/
def openRequest (s : Container) (spec : RequestSpec) : Container :=
  { s with
    nextSerial := s.nextSerial + 2
    request := .ofSpec s.nextSerial spec
    response := { serial := s.nextSerial + 1 } }

/-- The state with a new response of these contents in place of the current one. -/
def newResponse (s : Container) (response : Response) : Container :=
  { s with
    nextSerial := s.nextSerial + 1
    response := { response with serial := s.nextSerial } }

def openResponse (s : Container) : Container := s.newResponse {}

/-- The pipeline of the current request, if it still exists. -/
def attachedPipeline? (s : Container) : Option Nat :=
  s.request.pipeline.filter fun p => (s.pipelines.find? p).isSome

def view (s : Container) : View where
  request := { s.request with serial := 0, pipeline := none }
  response := { s.response with serial := 0 }
  attached := s.attachedPipeline?.isSome
  trackedRequest := s.lastServiced.any fun r => r.1 == s.request.serial
  trackedResponse := s.lastServiced.any fun r => r.2 == s.response.serial

end Container

def record (e : Event) : Run Unit := modify (·.note e)

def log (level : LogLevel) (message : String) (fields : List (String × LogValue)) : Run Unit :=
  record (.logged { level, message, fields })

def measure (m : Measurement) : Run Unit := record (.measured m)

def freshSerial : Run Nat :=
  modifyGet fun s => (s.nextSerial, { s with nextSerial := s.nextSerial + 1 })

end ServletFilters
