/-
# ComposeSite.Forward.Run -- forwarding ports to services

All specs are read before anything else happens.  Then, spec by spec, the service's
container and its address are looked up and the local port is bound; forwarding starts
when all of them are bound.
-/
import ComposeSite.Compose.Lookup
import ComposeSite.Docker.Link
import ComposeSite.Forward.Relay
import ComposeSite.Forward.Spec

set_option autoImplicit false

namespace ComposeSite.Forward

open Output (Style)

/-- Where a bound local port leads. -/
structure Route where
  localPort : UInt16
  host : String
  remotePort : UInt16
  deriving DecidableEq, Repr

def transport (l : Docker.Link) : String :=
  if l.connection.isSome then "SSH" else "direct TCP"

/-- The first port that is not taken, from one on, among some number of ports. -/
def firstFree? (taken : List UInt16) : Nat → Nat → Option UInt16
  | _, 0 => none
  | port, count + 1 =>
      if taken.contains (UInt16.ofNat port) then firstFree? taken (port + 1) count
      else some (UInt16.ofNat port)

/-- The first port that is given out when any will do. -/
def firstPort : Nat := 32768

/-- Binds a local port; nought stands for any that is free. -/
def bindPort (port : UInt16) : Act UInt16 := fun w t =>
  let taken := w.takenPorts ++ t.boundPorts
  let bound? :=
    if port = 0 then firstFree? taken firstPort (65536 - firstPort)
    else if taken.contains port then none else some port
  match bound? with
  | some bound => (.ok bound, { t with boundPorts := t.boundPorts ++ [bound] })
  | none => (.error (.portInUse port.toNat .addressInUse), t)

/-- Looks up where a spec leads and binds its local port. -/
def setUp (c : Context) (client : Docker.Client) (spec : Spec) : Act Route := do
  let container ← Compose.findContainer client c spec.service
  let host ← Compose.serviceAddress client c container
  let localPort ← bindPort spec.localPort
  pure ⟨localPort, host, spec.remotePort⟩

def relay (routes : List Route) : Relay (String × UInt16) :=
  .start (routes.map fun r => (r.host, r.remotePort))

def announcement (styled : Bool) (r : Route) (transport : String) : String :=
  let here := Style.place.apply styled s!"localhost:{r.localPort}"
  let there := Style.place.apply styled s!"{r.host}:{r.remotePort}"
  s!"Forwarding {here} -> {there} via {transport}"

def farewell (styled : Bool) : String :=
  Style.aside.apply styled "Shutting down port forwards..."

/-- Announces the routes and forwards until the process is told to stop. -/
def serve (l : Docker.Link) (routes : List Route) : Act (List Route) := do
  let styled ← Act.styled
  for r in routes do
    Act.printLine (announcement styled r (transport l))
  Act.printLine (farewell styled)
  pure routes

/-- Forwards specs until the process is told to stop, and gives the routes that were
served. -/
def run (c : Context) (specs : List String) : Act (List Route) := do
  let specs ← .ofResult (Spec.parseAll specs)
  Docker.withDaemon c fun l => do
    let routes ← specs.mapM (setUp c l.client)
    if routes.isEmpty then .fail (.config .noForwards)
    else serve l routes

end ComposeSite.Forward
