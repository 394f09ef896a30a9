import ServletFilters.Component.Class

/-!
What programs never do. A component that never asks how much room its chain has cannot tell a chain
that was used before from a new one, and one that never asks for what it has kept cannot tell whether
it was called before.
-/

namespace ServletFilters

/-- All that the program may ever do to the exchange and to the chain is of these kinds. -/
def Program.Only (acts : Action → Prop) (edits : ChainAction → Prop) : Program → Prop
  | .finish _ | .panic _ => True
  | .act action next => acts action ∧ ∀ answer, (next answer).Only acts edits
  | .chain action next => edits action ∧ ∀ answer, (next answer).Only acts edits
  | .dispatch _ _ next => ∀ result, (next result).Only acts edits
  | .withResponse _ body next =>
    body.Only acts edits ∧ ∀ result left, (next result left).Only acts edits
  | .reload _ next => ∀ result, (next result).Only acts edits

/-- Nowhere in the program it asks for how many filters the chain has room. -/
def Program.Roomless (p : Program) : Prop := p.Only (fun _ => True) (· ≠ .gauge)

/-- Nowhere in the program it asks for what was kept at an earlier call. -/
def Program.Forgetful (p : Program) : Prop := p.Only (· ≠ .retrieve) fun _ => True

def FilterClass.Only (acts : Action → Prop) (edits : ChainAction → Prop) (cls : FilterClass) : Prop :=
  ∀ definition n program, cls.make definition n = .ready program → program.Only acts edits

def ServletClass.Only (acts : Action → Prop) (edits : ChainAction → Prop) (cls : ServletClass) :
    Prop :=
  ∀ entry n program, cls.make entry n = .ready program → program.Only acts edits

structure ComponentFactory.Only (acts : Action → Prop) (edits : ChainAction → Prop)
    (components : ComponentFactory) : Prop where
  filter : ∀ {name cls}, components.filters.find? name = some cls → cls.Only acts edits
  servlet : ∀ {name cls}, components.servlets.find? name = some cls → cls.Only acts edits

/-- No component ever asks for how many filters its chain has room. -/
def ComponentFactory.Roomless (components : ComponentFactory) : Prop :=
  components.Only (fun _ => True) (· ≠ .gauge)

/-- No component ever asks for what it kept at an earlier call. -/
def ComponentFactory.Forgetful (components : ComponentFactory) : Prop :=
  components.Only (· ≠ .retrieve) fun _ => True

section Only

variable {acts acts' : Action → Prop} {edits edits' : ChainAction → Prop}

theorem Program.Only.imp {p : Program} (h : p.Only acts edits) (more : ∀ a, acts a → acts' a)
    (more' : ∀ a, edits a → edits' a) : p.Only acts' edits' := by
  induction p with
  | finish | panic => trivial
  | act action next ih => exact ⟨more _ h.1, fun answer => ih answer (h.2 answer)⟩
  | chain action next ih => exact ⟨more' _ h.1, fun answer => ih answer (h.2 answer)⟩
  | dispatch dispatcher target next ih => exact fun result => ih result (h result)
  | withResponse response body next inside ih =>
    exact ⟨inside h.1, fun result left => ih result left (h.2 result left)⟩
  | reload config next ih => exact fun result => ih result (h result)

theorem ComponentFactory.Only.imp {components : ComponentFactory} (h : components.Only acts edits)
    (more : ∀ a, acts a → acts' a) (more' : ∀ a, edits a → edits' a) :
    components.Only acts' edits' :=
  ⟨fun found d n program ready => (h.filter found d n program ready).imp more more',
    fun found entry n program ready => (h.servlet found entry n program ready).imp more more'⟩

theorem Program.only_performAll {actions : List Action} (allowed : ∀ a ∈ actions, acts a)
    {next : Program} (h : next.Only acts edits) : (performAll actions next).Only acts edits := by
  induction actions with
  | nil => exact h
  | cons action rest ih =>
    obtain ⟨first, later⟩ := List.forall_mem_cons.1 allowed
    exact ⟨first, fun _ => ih later⟩

variable {components : ComponentFactory} (h : components.Only acts edits) (name : String)
include h

theorem ComponentFactory.Only.registerFilter {cls : FilterClass} (only : cls.Only acts edits) :
    (components.registerFilter name cls).Only acts edits where
  filter found := by
    rcases registerFilter_cases found with rfl | before
    · exact only
    · exact h.filter before
  servlet := h.servlet

theorem ComponentFactory.Only.registerServlet {cls : ServletClass} (only : cls.Only acts edits) :
    (components.registerServlet name cls).Only acts edits where
  filter := h.filter
  servlet found := by
    rcases registerServlet_cases found with rfl | before
    · exact only
    · exact h.servlet before

end Only

end ServletFilters
