/-
# ComposeSite.Compose.Project -- whether there is a project to run

A local project has the compose files that its context names, all of them, or, if it
names none, a file of one of the usual names.
-/
import ComposeSite.Act

set_option autoImplicit false

namespace ComposeSite.Compose

def usualFiles : List String :=
  ["compose.yaml", "compose.yml", "docker-compose.yaml", "docker-compose.yml"]

/-- Whether the compose files of a context are in a directory. -/
def hasComposeFile (files : Host.FileTree) (c : Context) (directory : String) : Bool :=
  let isThere (name : String) : Bool := files.contains (Path.join directory name)
  if c.composeFiles.isEmpty then usualFiles.any isThere else c.composeFiles.all isThere

/-- Checks that the compose files of a local context are there. -/
def ensureComposeFile (c : Context) : Act Unit := .examine fun w =>
  let directory := (c.directory? w.environment.home).getD ""
  if hasComposeFile w.files c directory then .ok ()
  else .error (.config (.noComposeFile directory))

end ComposeSite.Compose
