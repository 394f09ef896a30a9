import ServletFilters.Component.Program
import ServletFilters.Registry.Error

/-!
# Component classes

A class makes components from their declarations. Making may fail or panic, and may depend on
how many components of that name were made before.
-/

namespace ServletFilters

/-- Whether a filter declares that requests may be suspended behind it. -/
inductive AsyncSupport where
  | supported
  | unsupported
  | unspecified
  deriving DecidableEq, Repr, Inhabited

namespace AsyncSupport

/-- The declaration in a configuration, where a missing one declares nothing. -/
def ofOption : Option Bool → AsyncSupport
  | some true => .supported
  | some false => .unsupported
  | none => .unspecified

def label : AsyncSupport → String
  | .supported => "Supported"
  | .unsupported => "Unsupported"
  | .unspecified => "Unspecified"

end AsyncSupport

structure FilterDefinition where
  name : String
  className : String
  asyncSupport : AsyncSupport := .unspecified
  initParams : Dict String String := {}
  deriving DecidableEq, Repr, Inhabited

def FilterDefinition.ofEntry (entry : Config.FilterEntry) : FilterDefinition where
  name := entry.name
  className := entry.className
  asyncSupport := .ofOption entry.asyncSupported
  initParams := entry.initParams

inductive Making where
  | ready (program : Program)
  | refused (failure : Failure)
  | panicked (message : String)

structure Component where
  /-- Tells this component from all others. -/
  serial : Nat
  name : String
  /-- Whether its making and its end are shown. -/
  announced : Bool := false
  program : Program
  deriving Inhabited

/-- A class of filters. The number says the how-manieth of its name is made. -/
structure FilterClass where
  announced : Bool := false
  make : FilterDefinition → Nat → Making

structure ServletClass where
  announced : Bool := false
  make : Config.ServletEntry → Nat → Making

structure ComponentFactory where
  filters : Dict String FilterClass := {}
  servlets : Dict String ServletClass := {}
  deriving Inhabited

namespace ComponentFactory

def registerFilter (f : ComponentFactory) (name : String) (cls : FilterClass) : ComponentFactory :=
  { f with filters := f.filters.insert name cls }

def registerServlet (f : ComponentFactory) (name : String) (cls : ServletClass) : ComponentFactory :=
  { f with servlets := f.servlets.insert name cls }

theorem registerFilter_cases {f : ComponentFactory} {name other : String} {cls known : FilterClass}
    (found : (f.registerFilter name cls).filters.find? other = some known) :
    known = cls ∨ f.filters.find? other = some known := by
  change (f.filters.insert name cls).find? other = some known at found
  rw [Dict.find?_insert] at found
  split at found
  · exact .inl (Option.some.inj found).symm
  · exact .inr found

theorem registerServlet_cases {f : ComponentFactory} {name other : String}
    {cls known : ServletClass}
    (found : (f.registerServlet name cls).servlets.find? other = some known) :
    known = cls ∨ f.servlets.find? other = some known := by
  change (f.servlets.insert name cls).find? other = some known at found
  rw [Dict.find?_insert] at found
  split at found
  · exact .inl (Option.some.inj found).symm
  · exact .inr found

def sorted (names : List String) : List String := names.mergeSort fun a b => !(decide (b < a))

def filterClasses (f : ComponentFactory) : List String := sorted f.filters.keys

def servletClasses (f : ComponentFactory) : List String := sorted f.servlets.keys

def shown (f : ComponentFactory) : String :=
  Text.shownRecord "ComponentFactory"
    [("filters", Text.shownList (f.filterClasses.map Text.quote)),
      ("servlets", Text.shownList (f.servletClasses.map Text.quote))]

/-- Looks for a class that is not known, among the filters first. -/
def checkClasses (f : ComponentFactory) (config : Config) : Except RegistryError Unit :=
  match config.filters.find? fun e => (f.filters.find? e.className).isNone with
  | some e => .error (.unknownFilterClass e.name e.className)
  | none =>
    match config.servlets.find? fun e => (f.servlets.find? e.className).isNone with
    | some e => .error (.unknownServletClass e.name e.className)
    | none => .ok ()

end ComponentFactory

end ServletFilters
