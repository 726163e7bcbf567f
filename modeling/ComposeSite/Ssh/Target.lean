/-
# ComposeSite.Ssh.Target -- where a remote context is reached
-/
import ComposeSite.Path

set_option autoImplicit false

namespace ComposeSite.Ssh

/-- Everything needed to dial a host: all fields are filled in. -/
structure Target where
  user : String
  hostname : String
  port : UInt16
  keyPath : String
  deriving DecidableEq, Repr

namespace Target

/-- Host and port as they are dialed. -/
def address (t : Target) : String := s!"{t.hostname}:{t.port}"

/-- The known hosts are listed next to the key. -/
def knownHostsPath (t : Target) : String :=
  Path.join ((Path.parent? t.keyPath).getD ".") "known_hosts"

end Target

end ComposeSite.Ssh
