/-!
# Event bus

An event goes to the mailbox of every subscriber on the list. A subscriber
taken off the list keeps what waits in its mailbox and then finds the end.
-/

namespace FuturesDesk

structure Mailbox (ε : Type) where
  id : Nat
  /-- Events not yet taken, oldest first. -/
  queue : List ε := []
  /-- On the list of the bus: new events are queued. -/
  listed : Bool := true
  /-- The subscriber has not left by itself. -/
  active : Bool := true

structure Bus (ε : Type) where
  /-- The id of the next subscriber; ids are never given twice. Where it is a
  64-bit counter, that is so for fewer than 2 ^ 64 subscriptions. -/
  nextId : Nat := 0
  mailboxes : List (Mailbox ε) := []

inductive Receipt (ε : Type) where
  | event (e : ε)
  /-- Nothing waits and nothing will come. -/
  | ended
  /-- Nothing waits yet. -/
  | waits

namespace Bus

variable {ε : Type}

instance : Inhabited (Bus ε) := ⟨⟨0, []⟩⟩

def find? (b : Bus ε) (id : Nat) : Option (Mailbox ε) := b.mailboxes.find? (·.id == id)

def modify (b : Bus ε) (id : Nat) (f : Mailbox ε → Mailbox ε) : Bus ε :=
  { b with mailboxes := b.mailboxes.map fun m => if m.id = id then f m else m }

def count (b : Bus ε) : Nat := (b.mailboxes.filter (·.listed)).length

/-- A new subscriber and its id. -/
def subscribe (b : Bus ε) : Bus ε × Nat :=
  (⟨b.nextId + 1, b.mailboxes ++ [{ id := b.nextId }]⟩, b.nextId)

def publish (b : Bus ε) (e : ε) : Bus ε :=
  { b with mailboxes := b.mailboxes.map fun m => if m.listed then { m with queue := m.queue ++ [e] } else m }

/-- Takes a subscriber off the list; whether it was there. -/
def unlist (b : Bus ε) (id : Nat) : Bus ε × Bool :=
  (b.modify id fun m => { m with listed := false }, ((b.find? id).map (·.listed)).getD false)

/-- A subscriber leaves; leaving again changes nothing. -/
def leave (b : Bus ε) (id : Nat) : Bus ε :=
  b.modify id fun m => if m.active then { m with listed := false, active := false } else m

def drop (b : Bus ε) (id : Nat) : Bus ε := { b with mailboxes := b.mailboxes.filter (·.id != id) }

/-- What the subscriber with that id finds. -/
def peek (b : Bus ε) (id : Nat) : Receipt ε :=
  match b.find? id with
  | none => .ended
  | some m =>
    match m.queue with
    | e :: _ => .event e
    | [] => if m.listed then .waits else .ended

def take (b : Bus ε) (id : Nat) : Bus ε × Receipt ε :=
  (b.modify id fun m => { m with queue := m.queue.tail }, b.peek id)

def queued (b : Bus ε) (id : Nat) : List ε := ((b.find? id).map (·.queue)).getD []

def takeAll (b : Bus ε) (id : Nat) : Bus ε × List ε :=
  (b.modify id fun m => { m with queue := [] }, b.queued id)

def isActive (b : Bus ε) (id : Nat) : Bool := ((b.find? id).map (·.active)).getD false

end Bus

end FuturesDesk
