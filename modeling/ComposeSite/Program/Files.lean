/-
# ComposeSite.Program.Files -- the files that the program looks at

A run reads the configuration, and then at most the keys, known hosts and compose files
that its contexts name.
-/
import ComposeSite.Compose.Project
import ComposeSite.Context.Config

set_option autoImplicit false

namespace ComposeSite.Program

/-- The files that the commands of a context look at. -/
def contextPaths (home : String) (c : Context) : List String :=
  let key := match c.sshTarget home with
    | .ok target => [target.keyPath, target.knownHostsPath]
    | .error _ => []
  let directory := (c.directory? home).getD ""
  key ++ (c.composeFiles ++ Compose.usualFiles).map (Path.join directory)

/-- The files that a run looks at after it has read a configuration. -/
def paths (home text : String) : List String :=
  match Config.ofText (Config.path home) text with
  | .ok config => config.contexts.flatMap (contextPaths home)
  | .error _ => []

end ComposeSite.Program
