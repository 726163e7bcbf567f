/-
# ComposeSite.Ssh.Server -- a host behind SSH

A server has a key of its own, may refuse some requests, and answers the others from
its script, its files and the daemons that listen on its sockets.
-/
import ComposeSite.Docker.Daemon
import ComposeSite.Session.Remote
import ComposeSite.Ssh.PublicKey

set_option autoImplicit false

namespace ComposeSite.Ssh

/-- What a server may refuse. -/
inductive Refusal where
  | user
  | session
  | pty
  | command
  | direct
  | opening
  | reading
  deriving DecidableEq, Repr

/-- What a server sees of a client. -/
inductive Seen where
  | user (name : String)
  | session
  | pty (columns rows : Nat)
  | command (line : String)
  | inputClosed
  | subsystem (name : String)
  | opened (path : String)
  | direct (host : String) (port : Nat)
  | directSocket (path : String)
  deriving DecidableEq, Repr

/-- The points of the work on a host at which the connection may be lost. -/
inductive Point where
  | session
  | pty
  | command
  | subsystem
  | fileTransfer
  deriving DecidableEq, Repr

/-- A host behind SSH. The script is what a command sends once its input is closed. The
connection is lost at some points, and after some number of sends to a command, if that is
limited. -/
structure Server where
  hostKey : PublicKey
  refuses : List Refusal := []
  lostAt : List Point := []
  sends : Option Nat := none
  script : List Session.Message := []
  files : List (String × Bytes) := []
  daemons : List (String × Docker.Daemon) := []

/-- Why nothing can be said to a host: the connection fails, or nobody says anything in
time. -/
inductive Unreached where
  | refused (cause : IoFailure)
  | silent
  deriving DecidableEq, Repr

/-- What answers at a host and port. -/
abbrev Network := String → UInt16 → Except Unreached Server

/-- Whether a host is named by its address, or is this one. -/
def isAddress (host : String) : Bool :=
  host = "localhost" || host.toList.all fun c => c.isDigit || c = '.' || c = ':'

/-- A network on which nothing can be reached: no name can be looked up and no address
answers. -/
def Network.down : Network := fun host _ =>
  if isAddress host then .error (.refused .unreachable)
  else .error (.refused (.other ("failed to lookup address information: " ++
    "Temporary failure in name resolution")))

inductive Event where
  | connected
  | seen (s : Seen)
  | closed
  deriving DecidableEq, Repr

end ComposeSite.Ssh
