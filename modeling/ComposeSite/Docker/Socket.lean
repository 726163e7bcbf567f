/-
# ComposeSite.Docker.Socket -- where a daemon listens

A local daemon is looked for on the configured socket, on the user's own socket and on
the one that a variable names, in this order; the first that something listens on is
taken.
-/
import ComposeSite.World

set_option autoImplicit false

namespace ComposeSite.Docker

/-- The scheme a socket may be written with. -/
def scheme : List Char := "unix://".toList

/-- The path of a socket, without the scheme it may be written with. -/
def socketPath (socket : String) : String :=
  if scheme.isPrefixOf socket.toList then String.ofList (socket.toList.drop scheme.length)
  else socket

/-- The sockets a local daemon may listen on, as they are written. -/
def candidates (e : Environment) (configured : String) : List String :=
  [configured, Path.join e.home ".docker/run/docker.sock"] ++ (e.get? "DOCKER_HOST").toList

def isAlive (files : Host.FileTree) (socket : String) : Bool :=
  let path := socketPath socket
  !path.isEmpty && files.listens path

/-- The path of the first socket that something listens on. -/
def resolveLocal (e : Environment) (files : Host.FileTree) (configured : String) :
    Except Failure String :=
  match (candidates e configured).find? (isAlive files) with
  | some socket => .ok (socketPath socket)
  | none => .error (.config (.noDaemon (candidates e configured)))

end ComposeSite.Docker
