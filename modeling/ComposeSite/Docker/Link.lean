/-
# ComposeSite.Docker.Link -- the daemon of a context

The daemon of a local context listens on this machine.  That of a remote context is
reached through a connection to its host, on which a local socket stands for the
daemon's own; the connection lasts as long as the work with the daemon.
-/
import ComposeSite.Docker.Client
import ComposeSite.Ssh.Connection

set_option autoImplicit false

namespace ComposeSite.Docker

/-- A daemon, and the connection that leads to it if it is on another host. -/
structure Link where
  client : Client
  connection : Option Ssh.Connection

/-- The local socket that stands for a remote one. -/
def proxySocket (w : World) : String :=
  Path.join (Path.join w.temporaryDirectory "sitectl-proxy") "docker.sock"

/-- Connects to the daemon on a socket of another host. If the far side does not lead to the
socket, the local one is closed before it has answered anything. -/
def connectThrough (connection : Ssh.Connection) (path : String) : Act Client := do
  let proxy ← .look proxySocket
  match ← (connection.openSocket path).attempt with
  | .ok daemon => negotiate daemon proxy
  | .error _ => .fail (.docker .negotiateVersion proxy .severed)

/-- Does some work with the daemon of a context. -/
def withDaemon {α : Type} (c : Context) (work : Link → Act α) : Act α :=
  match c.kind with
  | .here => do
      let socket ← .examine fun w => resolveLocal w.environment w.files c.dockerSocket
      let client ← connectSocket socket
      work ⟨client, none⟩
  | .remote => Ssh.onHost c fun connection => do
      let client ← connectThrough connection (socketPath c.dockerSocket)
      work ⟨client, some connection⟩

end ComposeSite.Docker
