/-
# ComposeSite.Docker.Client -- asking a daemon

A client knows where its daemon listens and which version of the interface both
understand: the lower one of the daemon's and its own. Every request is noted in the
trace before it is answered.
-/
import ComposeSite.Act
import ComposeSite.Docker.Document
import ComposeSite.Docker.Socket
import ComposeSite.Text.Numeral

set_option autoImplicit false

namespace ComposeSite.Docker

structure ApiVersion where
  major : Nat
  minor : Nat
  deriving DecidableEq, Repr

namespace ApiVersion

/-- The newest version that this client knows. -/
def newest : ApiVersion := ⟨1, 47⟩

/-- The version that a text spells: two numbers around a dot. -/
def ofText? (s : String) : Option ApiVersion :=
  match Text.split '.' s.toList with
  | [major, minor] => do
      pure ⟨← Text.Numeral.unsigned? Text.Numeral.max64 major,
        ← Text.Numeral.unsigned? Text.Numeral.max64 minor⟩
  | _ => none

def lower (a b : ApiVersion) : ApiVersion :=
  if a.major < b.major ∨ (a.major = b.major ∧ a.minor < b.minor) then a else b

def render (v : ApiVersion) : String := s!"{v.major}.{v.minor}"

end ApiVersion

/-- A daemon, the path of its socket and the version spoken with it. -/
structure Client where
  daemon : Daemon
  socket : String
  version : ApiVersion

def ask (d : Daemon) (r : Request) : Act Response := fun _ t =>
  (.ok (d.answer r), t.asked [r])

/-- Sends a request and reads the document of the answer. -/
def askFor {α : Type} (d : Daemon) (r : Request) (operation : DockerOperation)
    (target : String) (reader : Json.Reader α) : Act α := do
  let response ← ask d r
  .ofResult ((response.read reader).mapError (.docker operation target))

/-- Agrees with a daemon on a version. -/
def negotiate (d : Daemon) (socket : String) : Act Client := do
  let stated ← askFor d .version .negotiateVersion socket Document.apiVersion
  match stated.bind ApiVersion.ofText? with
  | some version => pure ⟨d, socket, version.lower .newest⟩
  | none => .fail (.docker .negotiateVersion socket .version)

/-- Connects to the daemon that listens on a socket of this machine. -/
def connectSocket (socket : String) : Act Client := do
  let d ← .examine fun w =>
    if !w.files.contains socket then
      .error (.docker .connect socket (.noSocket socket))
    else
      match w.daemonAt? socket with
      | some d => .ok d
      | none => .error (.docker .negotiateVersion socket .unreachable)
  negotiate d socket

namespace Client

def list (c : Client) (labels : List String) : Act (List Summary) :=
  let shown := ", ".intercalate (labels.map Text.quoted)
  askFor c.daemon (.list labels) .listContainers
    ("\x7b\"label\": [" ++ shown ++ "]\x7d") Document.summaries

def inspect (c : Client) (container : String) : Act Inspection :=
  askFor c.daemon (.inspect container) .inspectContainer container Document.inspection

def createExec (c : Client) (container : String) (config : ExecConfig) : Act String :=
  askFor c.daemon (.createExec container config) .createExec container Document.execId

/-- The exit code of an exec, if it has one. -/
def inspectExec (c : Client) (exec : String) : Act (Option Int) :=
  askFor c.daemon (.inspectExec exec) .inspectExec exec Document.exitCode

end Client

end ComposeSite.Docker
