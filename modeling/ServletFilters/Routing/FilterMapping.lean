import ServletFilters.Config.Schema
import ServletFilters.Routing.DispatcherSet
import ServletFilters.Routing.UrlPattern

/-!
# Filter mappings

A mapping ties a filter name to dispatcher kinds and to two selections, one of paths and one
of servlet names. The word `*` turns a selection into the one of everything, and later words
do not undo that.
-/

namespace ServletFilters

inductive Selection where
  | everything
  | listed (words : List String)
  deriving DecidableEq, Repr, Inhabited

namespace Selection

def add (s : Selection) (word : String) : Selection :=
  if word = "*" then .everything
  else match s with
    | .everything => .everything
    | .listed words => .listed (words ++ [word])

def ofWords (words : List String) : Selection := words.foldl add (.listed [])

def any (s : Selection) (test : String → Bool) : Bool :=
  match s with
  | .everything => true
  | .listed words => words.any test

theorem foldl_add_everything (words : List String) : words.foldl add .everything = .everything := by
  induction words with
  | nil => rfl
  | cons w rest ih =>
    by_cases h : w = "*" <;> simpa [List.foldl_cons, add, h] using ih

theorem foldl_add_listed (words start : List String) :
    words.foldl add (.listed start) =
      if "*" ∈ words then .everything else .listed (start ++ words) := by
  induction words generalizing start with
  | nil => simp
  | cons w rest ih =>
    by_cases h : w = "*"
    · simp [List.foldl_cons, add, h, foldl_add_everything]
    · simp [List.foldl_cons, add, h, ih, Ne.symm h]

/-- A star anywhere selects everything; without one the words are kept in order. -/
theorem ofWords_eq (words : List String) :
    ofWords words = if "*" ∈ words then .everything else .listed words := by
  rw [ofWords, foldl_add_listed, List.nil_append]

end Selection

structure FilterMapping where
  filterName : String
  dispatchers : DispatcherSet := {}
  urls : Selection := .listed []
  servlets : Selection := .listed []
  deriving DecidableEq, Repr, Inhabited

namespace FilterMapping

def addUrl (m : FilterMapping) (pattern : String) : FilterMapping :=
  { m with urls := m.urls.add pattern }

def addServlet (m : FilterMapping) (name : String) : FilterMapping :=
  { m with servlets := m.servlets.add name }

def allUrls (m : FilterMapping) : FilterMapping := { m with urls := .everything }

def allServlets (m : FilterMapping) : FilterMapping := { m with servlets := .everything }

/-- Whether the mapping counts for requests that came this way. -/
def appliesTo (m : FilterMapping) (d : Dispatcher) : Bool := m.dispatchers.contains d

/-- Whether the mapping selects by path; only the selection of everything selects a request
without a path. -/
def selectsPath (m : FilterMapping) : Option String → Bool
  | some path => m.urls.any fun pattern => UrlPattern.accepts pattern path
  | none => m.urls = .everything

/-- Whether the mapping selects by servlet name; a request without a servlet is never selected
that way. -/
def selectsServlet (m : FilterMapping) : Option String → Bool
  | some name => m.servlets.any (· == name)
  | none => false

/-- The mapping of a configuration entry; the first unknown dispatcher name is reported. -/
def ofEntry (entry : Config.MappingEntry) : Except UnknownDispatcher FilterMapping := do
  let kinds ← entry.dispatchers.mapM Dispatcher.parse
  return {
    filterName := entry.filterName
    dispatchers := .ofList kinds
    urls := .ofWords entry.urlPatterns
    servlets := .ofWords entry.servletNames }

end FilterMapping

end ServletFilters
