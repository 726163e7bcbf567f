/-
# ComposeSite.World -- what a command finds and what it leaves behind

A command finds a world: variables, files, daemons that listen on sockets, hosts that
can be dialed, a terminal, its input and what is typed when a passphrase is asked for.  None
of that changes while it runs.  What it leaves behind is a trace: its output, the programs
that it started and with what, the requests that daemons got, the input of execs, the keys
that it read and what happened on connections.  One log has what happened to the terminal in
order with the work done meanwhile: requests (`Trace.asked`), execs that were followed
(`Trace.followed`) and the steps of sessions.
-/
import ComposeSite.Docker.Daemon
import ComposeSite.Environment
import ComposeSite.Host.FileTree
import ComposeSite.Script.Start
import ComposeSite.Ssh.Server
import ComposeSite.Terminal

set_option autoImplicit false

namespace ComposeSite

/-- What a command finds. The passphrase is what is typed when one is asked for on behalf of a
path. -/
structure World where
  environment : Environment
  files : Host.FileTree
  daemons : List (Host.Location × Docker.Daemon) := []
  network : Ssh.Network := Ssh.Network.down
  terminal : Terminal := {}
  stdin : Bytes := []
  passphrase : String → Except IoFailure String := fun _ => .error Terminal.noPrompt
  takenPorts : List UInt16 := []
  temporaryDirectory : String := "/tmp"

namespace World

def daemonAt? (w : World) (path : String) : Option Docker.Daemon :=
  match w.files.resolve path with
  | .ok (location, .socket) => w.daemons.lookup location
  | _ => none

end World

/-- What a command leaves behind. -/
structure Trace where
  stdout : Output.Sink := {}
  stderr : Output.Sink := {}
  started : List Script.Start := []
  requests : List Docker.Request := []
  fed : List Docker.Fed := []
  log : List Terminal.Event := []
  keysRead : List String := []
  connections : List (Nat × Ssh.Event) := []
  boundPorts : List UInt16 := []

namespace Trace

/-- Some requests are sent, one after the other. -/
def asked (t : Trace) (requests : List Docker.Request) : Trace :=
  { t with requests := t.requests ++ requests, log := t.log ++ requests.map fun _ => .work }

@[simp]
theorem asked_stdout (t : Trace) (requests : List Docker.Request) :
    (t.asked requests).stdout = t.stdout := rfl

@[simp]
theorem asked_stderr (t : Trace) (requests : List Docker.Request) :
    (t.asked requests).stderr = t.stderr := rfl

@[simp]
theorem asked_asked (t : Trace) (earlier later : List Docker.Request) :
    (t.asked earlier).asked later = t.asked (earlier ++ later) := by
  simp only [asked, List.append_assoc, List.map_append]

/-- An exec is followed, and given something meanwhile. -/
def followed (t : Trace) (fed : Docker.Fed) : Trace :=
  { t with fed := t.fed ++ [fed], log := t.log ++ [.work] }

/-- What happened to the terminal itself. -/
def terminal (t : Trace) : List Terminal.Event := t.log.filter (·.isMode)

/-- The input of the last exec, if it waited for it. -/
def execInput (t : Trace) : Option Bytes :=
  (t.fed.getLast?.filter (·.awaited)).map (·.octets)

def connectionCount (t : Trace) : Nat :=
  (t.connections.filter fun (_, e) => e = .connected).length

def isClosed (t : Trace) (connection : Nat) : Bool :=
  t.connections.contains (connection, .closed)

end Trace

end ComposeSite
