import ServletFilters.Lifecycle.Shutdown

/-!
Who receives a shutdown signal. A signal is shared by all handles on it, and each of its receivers
gets it once, however often it is given and through whichever handles, if it subscribed before it
was given first. A receiver that subscribed later never gets it, `signal_received`.
-/

namespace ServletFilters.Shutdown

/-- A signal, and the number of handles on it, which count from zero. -/
structure Shared where
  signal : Shutdown := {}
  handles : Nat := 1
  deriving DecidableEq, Repr

/-- What is done through one of the handles, or by a receiver. -/
inductive Deed where
  | clone (handle : Nat)
  | subscribe (handle : Nat) (receiver : String)
  | trigger (handle : Nat)
  | receive (receiver : String)
  | unsubscribe (receiver : String)
  deriving DecidableEq, Repr

namespace Shared

def through (s : Shared) (handle : Nat) (f : Shared → Shared) : Shared :=
  if handle < s.handles then f s else s

def change (s : Shared) (f : Shutdown → Shutdown) : Shared := { s with signal := f s.signal }

/-- The signal after a deed. Through a handle that there is not, nothing is done. -/
def act (s : Shared) : Deed → Shared
  | .clone handle => s.through handle fun s => { s with handles := s.handles + 1 }
  | .subscribe handle receiver => s.through handle (·.change (·.subscribe receiver))
  | .trigger handle => s.through handle (·.change trigger)
  | .receive receiver => s.change fun signal => (signal.receive receiver).2
  | .unsubscribe receiver => s.change (·.unsubscribe receiver)

def run (s : Shared) (deeds : List Deed) : Shared := deeds.foldl act s

/-- The receiver would get the signal now. -/
def fires (s : Shared) (receiver : String) : Bool := (s.signal.receive receiver).1 = .fired

def fired (receiver : String) (s : Shared) : List Deed → Nat
  | [] => 0
  | deed :: rest =>
    (if deed = .receive receiver ∧ s.fires receiver then 1 else 0) + (s.act deed).fired receiver rest

/-- The deed gives the signal, for the first time or again. -/
def gives (s : Shared) : Deed → Bool
  | .trigger handle => handle < s.handles
  | _ => false

def triggers (s : Shared) : List Deed → Bool
  | [] => false
  | deed :: rest => s.gives deed || (s.act deed).triggers rest

end Shared

/-- The deed neither replaces the receiver nor takes it away. -/
def Deed.leaves (receiver : String) : Deed → Bool
  | .subscribe _ other | .unsubscribe other => other ≠ receiver
  | _ => true

/-! ### One receiver -/

theorem receive_frame (c : Channel) (name : String) :
    (c.receive name).2.room = c.room ∧ (c.receive name).2.sent = c.sent ∧
      ∀ other, name ≠ other →
        (c.receive name).2.receivers.find? other = c.receivers.find? other := by
  have moved : ∀ next other, name ≠ other →
      (c.receivers.insert name next).find? other = c.receivers.find? other := by
    intro next other different
    rw [Dict.find?_insert, if_neg different.symm]
  unfold Channel.receive
  cases c.receivers.find? name with
  | none => exact ⟨rfl, rfl, fun _ _ => rfl⟩
  | some next =>
    dsimp only
    split
    · exact ⟨rfl, rfl, fun _ _ => rfl⟩
    · split <;> exact ⟨rfl, rfl, moved _⟩

theorem receive_read {c : Channel} {name : String} (h : c.receivers.find? name = some c.sent) :
    c.receive name = (some .nothing, c) := by
  unfold Channel.receive
  rw [h]
  exact if_pos rfl

theorem receive_unread {c : Channel} {name : String} {next : Nat}
    (h : c.receivers.find? name = some next) (unread : next < c.sent) (near : c.sent ≤ next + c.room) :
    c.receive name = (some .message, { c with receivers := c.receivers.insert name (next + 1) }) := by
  unfold Channel.receive
  rw [h]
  exact (if_neg (Nat.ne_of_lt unread)).trans (if_neg (Nat.not_lt_of_le near))

theorem send_of_receiver {c : Channel} {name : String} {next : Nat}
    (h : c.receivers.find? name = some next) : c.send = { c with sent := c.sent + 1 } := by
  have member := Dict.mem_entries_of_find? h
  have someone : c.receiverCount ≠ 0 := by
    intro none
    rw [List.length_eq_zero_iff.1 none] at member
    cases member
  exact if_neg someone

/-- How many signals are given between two states. -/
def due (s t : Shutdown) : Nat := if !s.triggered && t.triggered then 1 else 0

/-- The receiver subscribed in the earlier state, and has read so many signals since. -/
structure Follows (receiver : String) (s t : Shutdown) (read : Nat) : Prop where
  room : t.channel.room = 1
  place : t.channel.receivers.find? receiver = some (s.channel.sent + read)
  sent : t.channel.sent = s.channel.sent + due s t
  read_le : read ≤ due s t
  later : s.triggered = true → t.triggered = true

theorem due_le_one (s t : Shutdown) : due s t ≤ 1 := by
  unfold due
  split <;> omega

namespace Follows

variable {receiver : String} {s t : Shutdown} {read : Nat}

theorem subscribe (room : s.channel.room = 1) : Follows receiver s (s.subscribe receiver) 0 := by
  have none : due s (s.subscribe receiver) = 0 := by
    unfold due
    cases given : s.triggered <;> simp [Shutdown.subscribe, given]
  refine ⟨room, Dict.find?_insert_self .., ?_, Nat.zero_le _, id⟩
  rw [none]
  rfl

/-- What leaves the signal, the messages and the place of the receiver leaves its account. -/
theorem of_channel {c : Channel} (h : Follows receiver s t read) (room : c.room = t.channel.room)
    (sent : c.sent = t.channel.sent)
    (place : c.receivers.find? receiver = t.channel.receivers.find? receiver) :
    Follows receiver s { t with channel := c } read :=
  ⟨room.trans h.room, place.trans h.place, sent.trans h.sent, h.read_le, h.later⟩

theorem trigger (h : Follows receiver s t read) : Follows receiver s t.trigger read := by
  unfold Shutdown.trigger
  cases given : t.triggered with
  | true => exact h
  | false =>
    have before : s.triggered = false := by
      cases early : s.triggered with
      | false => rfl
      | true => exact absurd (h.later early) (by rw [given]; exact Bool.false_ne_true)
    have none : due s t = 0 := by simp [due, given]
    have one : due s { triggered := true, channel := t.channel.send } = 1 := by simp [due, before]
    have sent := h.sent
    have read_le := h.read_le
    rw [none] at sent read_le
    rw [if_neg Bool.false_ne_true]
    refine ⟨?_, ?_, ?_, ?_, fun _ => rfl⟩
    · rw [send_of_receiver h.place]
      exact h.room
    · rw [send_of_receiver h.place]
      exact h.place
    · rw [one, send_of_receiver h.place]
      exact congrArg (· + 1) sent
    · rw [one]
      exact Nat.le_trans read_le (Nat.zero_le 1)

/-- The receiver gets a signal if one was given that it has not read, and has read it then. -/
theorem receive (h : Follows receiver s t read) :
    ((t.receive receiver).1 = .fired ↔ read < due s t) ∧
      Follows receiver s (t.receive receiver).2
        (read + if (t.receive receiver).1 = .fired then 1 else 0) := by
  have place := h.place
  have sent := h.sent
  have most := due_le_one s t
  rcases Nat.lt_or_ge read (due s t) with unread | all
  · have near : t.channel.sent ≤ s.channel.sent + read + t.channel.room := by
      have room := h.room
      omega
    have got : t.receive receiver = (.fired, { t with channel :=
        { t.channel with
          receivers := t.channel.receivers.insert receiver (s.channel.sent + read + 1) } }) := by
      rw [Shutdown.receive, receive_unread place (by omega) near]
      rfl
    rw [got]
    exact ⟨iff_of_true rfl unread, h.room, Dict.find?_insert_self .., sent, unread, h.later⟩
  · have read_le := h.read_le
    have got : t.receive receiver = (.empty, t) := by
      rw [show s.channel.sent + read = t.channel.sent by omega] at place
      rw [Shutdown.receive, receive_read place]
      rfl
    rw [got]
    exact ⟨iff_of_false (by rintro ⟨⟩) (by omega), h⟩

end Follows

/-! ### All deeds -/

namespace Shared

variable {receiver : String} {s : Shutdown} {t : Shared} {read : Nat}

theorem act_follows (h : Follows receiver s t.signal read) {deed : Deed}
    (kept : deed.leaves receiver = true) :
    Follows receiver s (t.act deed).signal
      (read + if deed = .receive receiver ∧ t.fires receiver then 1 else 0) := by
  have through : ∀ {handle : Nat} {f : Shared → Shared}, Follows receiver s (f t).signal read →
      Follows receiver s (t.through handle f).signal read := by
    intro handle f done
    unfold through
    split
    · exact done
    · exact h
  cases deed with
  | clone handle => exact through h
  | subscribe handle name =>
    refine through (h.of_channel rfl rfl ?_)
    exact (Dict.find?_insert ..).trans (if_neg (of_decide_eq_true kept).symm)
  | trigger handle => exact through h.trigger
  | unsubscribe name =>
    refine h.of_channel rfl rfl ?_
    exact (Dict.find?_erase ..).trans (if_neg (of_decide_eq_true kept).symm)
  | receive name =>
    by_cases own : name = receiver
    · subst own
      have got := h.receive.2
      by_cases fires : (t.signal.receive name).1 = .fired
      · rw [if_pos fires] at got
        rwa [if_pos ⟨rfl, decide_eq_true fires⟩]
      · rw [if_neg fires] at got
        rwa [if_neg fun both => fires (of_decide_eq_true both.2)]
    · have elsewhere : ¬ (Deed.receive name = .receive receiver ∧ t.fires receiver = true) := by
        rintro ⟨⟨⟩, -⟩
        exact own rfl
      obtain ⟨room, sent, place⟩ := receive_frame t.signal.channel name
      rw [if_neg elsewhere]
      exact h.of_channel room sent (place receiver own)

theorem run_follows {deeds : List Deed} (kept : ∀ deed ∈ deeds, deed.leaves receiver = true) :
    ∀ {t : Shared} {read : Nat}, Follows receiver s t.signal read →
      Follows receiver s (t.run deeds).signal (read + t.fired receiver deeds) := by
  induction deeds with
  | nil => exact fun h => h
  | cons deed rest ih =>
    intro t read h
    have first := act_follows h (kept deed List.mem_cons_self)
    have later := ih (fun d member => kept d (List.mem_cons_of_mem _ member)) first
    rw [Nat.add_assoc] at later
    exact later

/-- What a change through a handle leaves, it leaves also where there is no such handle. -/
theorem through_same {α : Type} (field : Shared → α) (t : Shared) (handle : Nat) {f : Shared → Shared}
    (same : field (f t) = field t) : field (t.through handle f) = field t := by
  unfold through
  split
  · exact same
  · rfl

theorem act_room (t : Shared) (deed : Deed) :
    (t.act deed).signal.channel.room = t.signal.channel.room := by
  cases deed with
  | clone handle => exact through_same (·.signal.channel.room) t handle rfl
  | subscribe handle name => exact through_same (·.signal.channel.room) t handle rfl
  | unsubscribe name => rfl
  | receive name => exact (receive_frame t.signal.channel name).1
  | trigger handle =>
    refine through_same (·.signal.channel.room) t handle ?_
    dsimp only [change, trigger, Channel.send]
    split
    · rfl
    · split <;> rfl

theorem act_triggered (t : Shared) (deed : Deed) :
    (t.act deed).signal.triggered = (t.signal.triggered || t.gives deed) := by
  cases deed with
  | clone handle =>
    exact (through_same (·.signal.triggered) t handle rfl).trans (Bool.or_false _).symm
  | subscribe handle name =>
    exact (through_same (·.signal.triggered) t handle rfl).trans (Bool.or_false _).symm
  | receive name => exact (Bool.or_false _).symm
  | unsubscribe name => exact (Bool.or_false _).symm
  | trigger handle =>
    change (t.through handle (·.change Shutdown.trigger)).signal.triggered =
      (t.signal.triggered || decide (handle < t.handles))
    unfold through
    by_cases held : handle < t.handles
    · rw [if_pos held, decide_eq_true held, Bool.or_true]
      dsimp only [change, Shutdown.trigger]
      split
      · assumption
      · rfl
    · rw [if_neg held, decide_eq_false held, Bool.or_false]

theorem run_room (deeds : List Deed) :
    ∀ t : Shared, (t.run deeds).signal.channel.room = t.signal.channel.room := by
  induction deeds with
  | nil => exact fun _ => rfl
  | cons deed rest ih => exact fun t => (ih _).trans (t.act_room deed)

theorem run_triggered (deeds : List Deed) :
    ∀ t : Shared, (t.run deeds).signal.triggered = (t.signal.triggered || t.triggers deeds) := by
  induction deeds with
  | nil => exact fun t => (Bool.or_false _).symm
  | cons deed rest ih =>
    intro t
    refine (ih _).trans ?_
    rw [act_triggered, Bool.or_assoc]
    rfl

end Shared

/-- A receiver that subscribes after some deeds through the handles on a signal, and stays. If the
signal had been given by then, the receiver never gets it, however often it is given again; whether
it was given is all that can be found out. If not, then as soon as it is given the receiver gets it
once: it has received it, or it would now. -/
theorem signal_received (before after : List Deed) {handle : Nat} {receiver : String}
    (held : handle < (({} : Shared).run before).handles)
    (stays : ∀ deed ∈ after, deed.leaves receiver = true) :
    let early := ({} : Shared).run before
    let start := early.act (.subscribe handle receiver)
    let now := start.run after
    now.signal.triggered = (({} : Shared).triggers before || start.triggers after) ∧
      start.fired receiver after + (if now.fires receiver then 1 else 0) =
        if ({} : Shared).triggers before then 0 else if start.triggers after then 1 else 0 := by
  intro early start now
  have subscribed : start = early.change (·.subscribe receiver) := if_pos held
  have given : early.signal.triggered = ({} : Shared).triggers before :=
    (Shared.run_triggered before {}).trans (Bool.false_or _)
  have since : now.signal.triggered = (({} : Shared).triggers before || start.triggers after) := by
    rw [Shared.run_triggered after start, ← given, subscribed]
    rfl
  have follows : Follows receiver early.signal start.signal 0 := by
    rw [subscribed]
    exact .subscribe (Shared.run_room before {})
  have later := Shared.run_follows stays follows
  rw [Nat.zero_add] at later
  have owed : due early.signal now.signal =
      if ({} : Shared).triggers before then 0 else if start.triggers after then 1 else 0 := by
    rw [due, given, since]
    cases ({} : Shared).triggers before <;> simp
  have fires : now.fires receiver = true ↔ start.fired receiver after < due early.signal now.signal :=
    decide_eq_true_iff.trans later.receive.1
  refine ⟨since, Eq.trans ?_ owed⟩
  have most : due early.signal now.signal ≤ 1 := due_le_one ..
  have read_le : start.fired receiver after ≤ due early.signal now.signal := later.read_le
  by_cases pending : now.fires receiver = true
  · have unread := fires.1 pending
    rw [if_pos pending]
    omega
  · have all := mt fires.2 pending
    rw [if_neg pending]
    omega

/-- What happens after a server has subscribed: the signal is given, looked for, and given again. -/
def laterDeeds : List Deed := [.trigger 0, .receive "server", .trigger 1]

/-- The handle of another task gives the signal, once after the server has subscribed and once
before. In the one case the server gets it, and gets it once. In the other it misses it, and does
not get it when it is given again. -/
theorem signal_received_server :
    let shared := ({} : Shared).run [.clone 0]
    let inTime := shared.act (.subscribe 0 "server")
    let late := (shared.act (.trigger 1)).act (.subscribe 0 "server")
    0 < shared.handles ∧ (∀ deed ∈ laterDeeds, deed.leaves "server" = true) ∧
      inTime.fired "server" laterDeeds + (if (inTime.run laterDeeds).fires "server" then 1 else 0) = 1 ∧
      (late.run laterDeeds).signal.triggered = true ∧ late.fired "server" laterDeeds = 0 ∧
      (late.run laterDeeds).fires "server" = false := by
  intro shared inTime late
  have stays : ∀ deed ∈ laterDeeds, deed.leaves "server" = true := by decide
  obtain ⟨-, once⟩ := signal_received [.clone 0] laterDeeds
    (show 0 < shared.handles by decide) stays
  obtain ⟨given, never⟩ := signal_received [.clone 0, .trigger 1] laterDeeds
    (show 0 < (shared.act (.trigger 1)).handles by decide) stays
  have before : ({} : Shared).triggers [.clone 0, .trigger 1] = true := by decide
  rw [before] at given never
  obtain ⟨none, pending⟩ := Nat.add_eq_zero_iff.1 never
  refine ⟨by decide, stays, once, given, none, ?_⟩
  rw [← Bool.not_eq_true]
  intro fires
  rw [show ((({} : Shared).run [.clone 0, .trigger 1]).act (.subscribe 0 "server")).run laterDeeds =
    late.run laterDeeds from rfl, if_pos fires] at pending
  cases pending

end ServletFilters.Shutdown
