/-
# ComposeSite.Ssh.Connection -- working on a host behind SSH

Dialing reads the user's key, connects, checks the host's key against the known hosts
and only then names the user.  Whatever is done on a connection, it is closed once
afterwards (`onHost`).
-/
import ComposeSite.Act
import ComposeSite.Shell.RemoteLine
import ComposeSite.Ssh.Access

set_option autoImplicit false

namespace ComposeSite.Ssh

/-- A connection on which the user has been accepted. -/
structure Connection where
  number : Nat
  target : Target
  server : Server

def noteEvent (number : Nat) (e : Event) : Act Unit :=
  .note fun t => { t with connections := t.connections ++ [(number, e)] }

def nextNumber : Act Nat := fun _ t => (.ok t.connectionCount, t)

namespace Connection

def name (c : Connection) : String := s!"{c.target.user}@{c.target.address}"

def sees (c : Connection) (s : Seen) : Act Unit := noteEvent c.number (.seen s)

def grants (c : Connection) (r : Refusal) : Bool := !c.server.refuses.contains r

/-- Fails if the connection is lost at a point. -/
def reach (c : Connection) (p : Point) (lost : SshFailure) : Act Unit :=
  if c.server.lostAt.contains p then .fail (.ssh lost) else pure ()

/-- Closes a connection; closing it again does nothing. -/
def close (c : Connection) : Act Unit := fun w t =>
  if t.isClosed c.number then (.ok (), t) else noteEvent c.number .closed w t

end Connection

/-- What a server says that does not open a channel. -/
def prohibited : TransportFailure := .channelRefused "AdministrativelyProhibited"

/-- How many seconds dialing may take. -/
def patience : Nat := 5

def unreachedFailure (target : Target) : Unreached → Failure
  | .refused cause => .protocol (.io cause)
  | .silent => .dialTimeout target.address patience

/-- A failure to connect as dialing tells of it: what is wrong with the host's key or was said
by the host is passed on, and so is a host that says nothing; anything else is put down to
dialing. -/
def whileDialing (address : String) : Failure → Failure
  | .hostKeyUnknown host port user => .hostKeyUnknown host port user
  | .hostKeyChanged host port user line => .hostKeyChanged host port user line
  | .ssh cause => .ssh cause
  | .dialTimeout address seconds => .dialTimeout address seconds
  | .protocol cause => .ssh (.dialing address cause)
  | f => .ssh (.stated s!"error dialing SSH at {address}: {f.message}")

/-- Shows the user's key to a server that has been connected to, after the server's own key
has been checked. -/
def introduce (number : Nat) (target : Target) (server : Server) : Act Connection := do
  .examine fun w => checkHostKey w.files target server.hostKey
  noteEvent number (.seen (.user target.user))
  if server.refuses.contains .user then
    .fail (.ssh (.keyRejected target.address target.keyPath target.user))
  else pure ⟨number, target, server⟩

/-- Connects to a target and shows the user's key there. -/
def connect (target : Target) : Act Connection := do
  let server ← .examine fun w =>
    (w.network target.hostname target.port).mapError (unreachedFailure target)
  let number ← nextNumber
  noteEvent number .connected
  introduce number target server

def readKey (target : Target) : Act PrivateKey := do
  .note fun t => { t with keysRead := t.keysRead ++ [target.keyPath] }
  .examine fun w => loadKey w.files target.keyPath w.passphrase

def dial (c : Context) : Act Connection := do
  let target ← .examine fun w => c.sshTarget w.environment.home
  let _ ← readKey target
  (connect target).blaming (whileDialing target.address)

def onHost {α : Type} (c : Context) (work : Connection → Act α) : Act α := do
  let connection ← dial c
  (work connection).ensuring connection.close

namespace Connection

/-! ## Sessions -/

def openSession (c : Connection) : Act Unit := do
  c.reach .session (.session c.name .disconnected)
  if c.grants .session then c.sees .session
  else .fail (.ssh (.session c.name prohibited))

/-- The timeline of a command: what is typed is sent and its end announced, then the server
sends its script and closes. -/
def timeline (c : Connection) (typed : Bytes) : List Session.Step :=
  (if typed.isEmpty then [] else [.input (.octets typed)]) ++ [.input .ended] ++
    (if c.grants .command then c.server.script.map .message else []) ++ [.message .close]

/-- Makes a request, which the server sees as something if it grants it. -/
def request (c : Connection) (r : Refusal) (seen : Seen) : Act Unit :=
  if c.grants r then c.sees seen else pure ()

/-- What the server sees of a session: the end of the input, if it was sent to a command. -/
def heard (c : Connection) (s : Session.State) : List (Nat × Event) :=
  if c.grants .command && s.sent.contains .eof then [(c.number, .seen .inputClosed)] else []

/-- Exchanges input and output with a command until the session is over. -/
def converse (c : Connection) (line : String) : Act String := fun w t =>
  let start : Session.State := { sink := t.stdout, allowance := c.server.sends }
  let (events, (s, _), r) := Session.conduct w.terminal line (start, c.timeline w.stdin)
  (r, { t with
    stdout := s.sink
    log := t.log ++ events
    connections := t.connections ++ c.heard s })

/-- Runs a command line under a terminal of its own and gives its last line of output. -/
def run (c : Connection) (line : String) : Act String := do
  c.openSession
  let terminal ← .look World.terminal
  c.reach .pty (.pty .sending)
  c.request .pty (.pty terminal.columns terminal.rows)
  c.reach .command (.command .sending)
  c.request .command (.command line)
  c.converse line

/-- The text of a remote file, or why it cannot be opened or read. -/
def fileText (c : Connection) (path : String) : Except Failure String :=
  match c.server.files.lookup path with
  | none => .error (.ssh (.remoteOpen path (.stated "No such file: No such file")))
  | some content =>
      if !c.grants .opening then
        .error (.ssh (.remoteOpen path (.stated "Permission denied: Permission denied")))
      else if !c.grants .reading then
        .error (.ssh (.remoteRead path (.stated "Permission denied: Permission denied")))
      else
        match Text.Utf8.decode? content with
        | some s => .ok s
        | none => .error (.ssh (.remoteRead path (.io .notText)))

def readText (c : Connection) (path : String) : Act String := do
  c.openSession
  c.reach .subsystem (.subsystem .sending)
  c.sees (.subsystem "sftp")
  c.reach .fileTransfer (.fileTransfer (.stated "Timeout"))
  c.sees (.opened path)
  .ofResult (c.fileText path)

/-- Reaches a host and port from the far side. -/
def openDirect (c : Connection) (host : String) (port : UInt16) : Act Unit := do
  c.sees (.direct host port.toNat)
  if !c.grants .direct then .fail (.ssh (.direct host port c.name prohibited))

/-- Reaches the daemon on a socket of the far side. -/
def openSocket (c : Connection) (path : String) : Act Docker.Daemon := do
  c.sees (.directSocket path)
  match c.server.daemons.lookup path with
  | some d => pure d
  | none =>
      .fail (.ssh (.directSocket path c.name (.channelRefused "UnknownChannelType")))

end Connection

end ComposeSite.Ssh
