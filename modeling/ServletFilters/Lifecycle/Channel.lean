import ServletFilters.Data.Dict

/-!
# Broadcast channels

A message goes to all receivers that there are when it is sent, and is dropped if there are none.
The channel keeps the last messages, as many as it has room for; a receiver that is further behind
is told how many it missed.
-/

namespace ServletFilters

/-- Messages are numbered in the order of sending. Each receiver has the number of the one that it
reads next. -/
structure Channel where
  room : Nat
  sent : Nat := 0
  receivers : Dict String Nat := {}
  deriving DecidableEq, Repr, Inhabited

/-- What a receiver finds. -/
inductive Receipt where
  | message
  /-- So many messages are gone that it did not read. -/
  | lagged (missed : Nat)
  | nothing
  deriving DecidableEq, Repr

namespace Channel

/-- Adds a receiver, for the messages from now on; one of the same name is replaced. -/
def subscribe (c : Channel) (name : String) : Channel :=
  { c with receivers := c.receivers.insert name c.sent }

def unsubscribe (c : Channel) (name : String) : Channel :=
  { c with receivers := c.receivers.erase name }

def receiverCount (c : Channel) : Nat := c.receivers.size

def send (c : Channel) : Channel :=
  if c.receiverCount = 0 then c else { c with sent := c.sent + 1 }

/-- What a receiver finds now, if there is one of that name. -/
def receive (c : Channel) (name : String) : Option Receipt × Channel :=
  let moveTo (next : Nat) : Channel := { c with receivers := c.receivers.insert name next }
  match c.receivers.find? name with
  | none => (none, c)
  | some next =>
    if next = c.sent then (some .nothing, c)
    else if next + c.room < c.sent then
      (some (.lagged (c.sent - c.room - next)), moveTo (c.sent - c.room))
    else (some .message, moveTo (next + 1))

end Channel

end ServletFilters
