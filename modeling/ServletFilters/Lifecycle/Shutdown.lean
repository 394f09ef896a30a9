import ServletFilters.Lifecycle.Channel

/-!
# Shutdown

A signal that is given once to all who have subscribed by then. Whoever subscribes later finds
that the signal was given but receives nothing.
-/

namespace ServletFilters

/-- Whether the signal was given, and the channel on which it goes out. -/
structure Shutdown where
  triggered : Bool := false
  channel : Channel := { room := 1 }
  deriving DecidableEq, Repr, Inhabited

inductive Reception where
  | fired
  | empty
  /-- There is no such receiver. -/
  | unknown
  deriving DecidableEq, Repr

/-- Whoever waits for the signal goes by any answer of the channel, also by one that a signal was
missed. -/
def Reception.ofReceipt : Option Receipt → Reception
  | none => .unknown
  | some .nothing => .empty
  | some .message | some (.lagged _) => .fired

namespace Shutdown

/-- Adds a receiver; one of the same name is replaced. -/
def subscribe (s : Shutdown) (name : String) : Shutdown :=
  { s with channel := s.channel.subscribe name }

def unsubscribe (s : Shutdown) (name : String) : Shutdown :=
  { s with channel := s.channel.unsubscribe name }

/-- Gives the signal; only the first time counts. -/
def trigger (s : Shutdown) : Shutdown :=
  if s.triggered then s else { triggered := true, channel := s.channel.send }

def receive (s : Shutdown) (name : String) : Reception × Shutdown :=
  let (receipt, channel) := s.channel.receive name
  (.ofReceipt receipt, { s with channel })

def receiverCount (s : Shutdown) : Nat := s.channel.receiverCount

end Shutdown

end ServletFilters
