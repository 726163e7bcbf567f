/-
# ComposeSite.Shell.RemoteLine -- a command as one line for the far side

The line changes into the project's directory, if there is one, and runs the
command there, as the superuser if the context says so.
-/
import ComposeSite.Context.Basic
import ComposeSite.Shell.Word

set_option autoImplicit false

namespace ComposeSite.Shell

/-- The line that runs a command in a context. -/
def remoteLine (c : Context) (command : Command) : String :=
  (if c.projectDir.isEmpty then "" else "cd " ++ quote c.projectDir ++ " && ") ++
  (if c.useSudo then "sudo " else "") ++ command.line

/-- The command that runs targets of the project's makefile. -/
def makeCommand (args : List String) : Command := ⟨"make", args⟩

end ComposeSite.Shell
