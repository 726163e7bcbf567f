/-
# ComposeSite.Compose.Arguments -- what docker is told to do

The context's profile and files come first, then the words as given, then the
flags that `up` and `build` get unless they were given.
-/
import ComposeSite.Failure

set_option autoImplicit false

namespace ComposeSite.Compose

/-- The first words that are passed on to compose. -/
def subcommands : List String :=
  ["attach", "build", "commit", "config", "cp", "create", "down", "events", "exec", "export",
   "images", "kill", "logs", "ls", "pause", "port", "ps", "pull", "push", "restart", "rm", "run",
   "scale", "start", "stats", "stop", "top", "unpause", "up", "version", "wait", "watch", "-h",
   "--help"]

def addedFlags (words : List String) : List String :=
  match words.head? with
  | some "up" =>
      if words.contains "-d" || words.contains "--detach" then [] else ["-d", "--remove-orphans"]
  | some "build" => if words.contains "--pull" then [] else ["--pull"]
  | _ => []

def contextFlags (c : Context) : List String :=
  (match c.activeProfile? with
    | some profile => ["--profile", profile]
    | none => []) ++
  c.composeFiles.flatMap (fun file => ["-f", file]) ++
  c.envFiles.flatMap (fun file => ["--env-file", file])

/-- The arguments of docker for given words in a context. -/
def arguments (c : Context) (words : List String) : Except Failure (List String) :=
  if subcommands.contains (words.headD "") then
    .ok ("compose" :: contextFlags c ++ (words ++ addedFlags words))
  else .error (.config (.unknownComposeCommand (words.headD "")))

end ComposeSite.Compose
