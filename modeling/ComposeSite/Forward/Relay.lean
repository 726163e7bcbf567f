/-
# ComposeSite.Forward.Relay -- connections that are passed on

A relay has listeners, each with a destination.  A connection accepted on a listener is
dialed to its destination; once that succeeds, octets are copied in both directions,
each in order and each ended on its own.  When the relay is told to stop, its listeners
leave one by one, each when it notices; connections that have been accepted go on.

Everything that may happen is an event, to the relay or to one of its connections, and
events may come in any order (`Passage.step`, `Relay.step`).  An event for which it is
not the time (`Stage.admits`) changes nothing.
-/
import ComposeSite.Bytes

set_option autoImplicit false

namespace ComposeSite.Forward

/-! ## One direction -/

/-- One direction of a connection: what its source has sent in all, what of that is still
waiting, what the relay holds, and what has been received at the other end; whether the source
has ended its side, and whether the other end has been told so. -/
structure Flow where
  sent : Bytes := []
  waiting : Bytes := []
  held : Bytes := []
  received : Bytes := []
  ended : Bool := false
  closed : Bool := false
  deriving DecidableEq, Repr

namespace Flow

/-- The source sends octets; after its end it does not. -/
def send (f : Flow) (data : Bytes) : Flow :=
  if f.ended then f
  else { f with sent := f.sent ++ data, waiting := f.waiting ++ data }

def finish (f : Flow) : Flow := { f with ended := true }

/-- The relay takes up to some number of octets that are waiting. -/
def take (f : Flow) (n : Nat) : Flow :=
  { f with held := f.held ++ f.waiting.take n, waiting := f.waiting.drop n }

/-- The relay delivers up to some number of octets that it holds. -/
def deliver (f : Flow) (n : Nat) : Flow :=
  { f with received := f.received ++ f.held.take n, held := f.held.drop n }

/-- The relay passes the end on, once everything before it has been delivered. -/
def close (f : Flow) : Flow :=
  if f.ended && f.waiting.isEmpty && f.held.isEmpty then { f with closed := true } else f

end Flow

/-- What happens in one direction: its source sends octets or ends its side, and the relay
takes octets, delivers them or passes the end on. -/
inductive FlowEvent where
  | send (data : Bytes)
  | finish
  | take (most : Nat)
  | deliver (most : Nat)
  | close
  deriving DecidableEq, Repr

/-- Whether an event is brought about by the source and not by the relay. -/
def FlowEvent.isSource : FlowEvent → Bool
  | send _ | finish => true
  | take _ | deliver _ | close => false

def Flow.step (f : Flow) : FlowEvent → Flow
  | .send data => f.send data
  | .finish => f.finish
  | .take most => f.take most
  | .deliver most => f.deliver most
  | .close => f.close

def Flow.run (f : Flow) (events : List FlowEvent) : Flow := events.foldl step f

/-- The directions of a connection: from the client that has connected to the far end that is
dialed, and back. -/
inductive Direction where
  | outward
  | inward
  deriving DecidableEq, Repr

/-! ## One connection -/

inductive PassageEvent where
  | dialed (success : Bool)
  | flow (direction : Direction) (event : FlowEvent)
  | fail
  deriving DecidableEq, Repr

/-- How far a connection is: its far end is being dialed, cannot be reached, or has been
reached, and then octets are copied until copying fails. -/
inductive Stage where
  | dialing
  | refused
  | copying
  | broken
  deriving DecidableEq, Repr

namespace Stage

def isReached : Stage → Bool
  | dialing | refused => false
  | copying | broken => true

/-- Whether it is the time for something to happen in a direction. Clients may send at once and
far ends once they have been reached; the relay copies octets while nothing has failed. -/
def admits (s : Stage) (d : Direction) (e : FlowEvent) : Bool :=
  if e.isSource then d = .outward || s.isReached else s = .copying

def step (s : Stage) : PassageEvent → Stage
  | .dialed success => if s = dialing then if success then copying else refused else s
  | .flow _ _ => s
  | .fail => if s = copying then broken else s

end Stage

/-- A connection, with the listener that it was accepted on and the destination that it is
dialed to. -/
structure Passage (δ : Type) where
  listener : Nat
  destination : δ
  stage : Stage := .dialing
  outward : Flow := {}
  inward : Flow := {}
  deriving DecidableEq, Repr

namespace Passage

variable {δ : Type}

def flow (p : Passage δ) : Direction → Flow
  | .outward => p.outward
  | .inward => p.inward

def change (p : Passage δ) (d : Direction) (e : FlowEvent) : Passage δ :=
  match d with
  | .outward => { p with outward := p.outward.step e }
  | .inward => { p with inward := p.inward.step e }

def step (p : Passage δ) : PassageEvent → Passage δ
  | .flow d e => if p.stage.admits d e then p.change d e else p
  | e => { p with stage := p.stage.step e }

def run (p : Passage δ) (events : List PassageEvent) : Passage δ := events.foldl step p

end Passage

/-! ## All connections -/

/-- What happens to a relay. Connections are counted from nought in the order in which they
are accepted. -/
inductive RelayEvent where
  | accept (listener : Nat)
  | acceptFailed (listener : Nat)
  | signal
  | leave (listener : Nat)
  | on (connection : Nat) (event : PassageEvent)
  deriving DecidableEq, Repr

/-- A listener: where its connections lead, and whether it still accepts them. -/
structure Listener (δ : Type) where
  destination : δ
  isOpen : Bool := true
  deriving DecidableEq, Repr

/-- A relay: its listeners, whether it has been told to stop, and the connections that it has
accepted. -/
structure Relay (δ : Type) where
  listeners : List (Listener δ)
  stopping : Bool := false
  passages : List (Passage δ) := []
  deriving DecidableEq, Repr

namespace Relay

variable {δ : Type}

/-- A relay that has just been started, with a listener for each destination. -/
def start (destinations : List δ) : Relay δ where
  listeners := destinations.map fun destination => { destination }

def accept (r : Relay δ) (listener : Nat) : Relay δ :=
  match r.listeners[listener]? with
  | some l =>
      if l.isOpen then
        { r with passages := r.passages ++ [{ listener, destination := l.destination }] }
      else r
  | none => r

def shut (r : Relay δ) (listener : Nat) : Relay δ :=
  { r with listeners := r.listeners.modify listener fun l => { l with isOpen := false } }

/-- What an event does. A listener that fails to accept is closed at once. -/
def step (r : Relay δ) : RelayEvent → Relay δ
  | .accept listener => r.accept listener
  | .acceptFailed listener => r.shut listener
  | .signal => { r with stopping := true }
  | .leave listener => if r.stopping then r.shut listener else r
  | .on connection e => { r with passages := r.passages.modify connection (·.step e) }

def run (r : Relay δ) (events : List RelayEvent) : Relay δ := events.foldl step r

/-- Whether a relay has come to its end: it was told to stop, and all listeners have left. -/
def hasReturned (r : Relay δ) : Bool := r.stopping && r.listeners.all fun l => !l.isOpen

end Relay

/-- The relay behind a local socket that stands for a socket of another host. It stops when the
local socket is given up. -/
def socketRelay (path : String) : Relay String := .start [path]

/-! ## An exchange -/

/-- The events that carry some octets and the end after them in one direction. -/
def carry (d : Direction) (data : Bytes) : List PassageEvent :=
  [.send data, .finish, .take data.length, .deliver data.length, .close].map (.flow d)

/-- What a client of a local socket gets that sends octets, ends its side and reads to the end,
from a far end that answers once it has read everything. If nothing can be reached there, it
gets nothing. -/
def exchange (path : String) (farEnd : Option (Bytes → Bytes)) (request : Bytes) : Bytes :=
  let accepted := (socketRelay path).run [.accept 0]
  let asked := accepted.run
    ((.dialed farEnd.isSome :: carry .outward request).map (.on 0))
  let heard := ((asked.passages[0]?).map (·.outward.received)).getD []
  let answered := match farEnd with
    | some answer => asked.run ((carry .inward (answer heard)).map (.on 0))
    | none => asked
  ((answered.passages[0]?).map (·.inward.received)).getD []

end ComposeSite.Forward
