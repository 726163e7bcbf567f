/-
# ComposeSite.Context.Files -- reading the files of a context
-/
import ComposeSite.Ssh.Connection

set_option autoImplicit false

namespace ComposeSite.Context

/-- Reads a small file where the context's project is. -/
def readText (c : Context) (path : String) : Act String :=
  match c.kind with
  | .here => .examine fun w => (w.files.readText path).mapError (.fileRead path)
  | .remote => Ssh.onHost c fun connection => connection.readText path

end ComposeSite.Context
