/-
# ComposeSite.Context.Validation -- contexts that can be used

A local context needs a docker socket, and a remote one everything that dialing
its host takes.
-/
import ComposeSite.Failure

set_option autoImplicit false

namespace ComposeSite.Context

def sshTarget (home : String) (c : Context) : Except Failure Ssh.Target :=
  (c.target home).mapError fun missing => .config (.incomplete c.name missing)

/-- Whether a context can be used, with what is wrong as the failure. -/
def validate (home : String) (c : Context) : Except Failure Unit :=
  match c.kind with
  | .here =>
      if (Text.trim c.dockerSocket).isEmpty then .error (.config (.noDockerSocket c.name))
      else .ok ()
  | .remote => (c.sshTarget home).map fun _ => ()

end ComposeSite.Context
