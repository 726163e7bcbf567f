/-
# ComposeSite.Main -- the command line

Reads the variables and files that the program looks at, runs it on them and writes what
it leaves behind.  It sees no daemons and no other hosts.
-/
import ComposeSite.Program.Files
import ComposeSite.Program.Run

set_option autoImplicit false

namespace ComposeSite.Main

/-- The variables that the program looks at. -/
def watchedVariables : List String :=
  ["HOME", "PATH", "SITECTL_CONTEXT", "LOG_LEVEL", "DOCKER_HOST", "CLICOLOR_FORCE"]

def readEnvironment : IO Environment := do
  let found ← watchedVariables.mapM fun name => do return (← IO.getEnv name).map fun v => (name, v)
  return ⟨found.filterMap id⟩

def readOctets (path : String) : IO (Option Bytes) := do
  try
    return some (← IO.FS.readBinFile path).toList
  catch _ => return none

/-- The location that stands for the directory the process starts in. -/
def workDirectory : Host.Location := ["work"]

def readFiles (paths : List String) : IO (List (Host.Location × Host.Entry)) := do
  let found ← paths.mapM fun path => do
    return (← readOctets path).map fun content =>
      (Host.FileTree.locate workDirectory path, Host.Entry.file content false)
  return found.filterMap id

def readWorld : IO World := do
  let environment ← readEnvironment
  let config := Config.path environment.home
  let text := Text.Utf8.decodeLossy ((← readOctets config).getD [])
  let entries ← readFiles (config :: Program.paths environment.home text)
  return { environment, files := { entries, workDirectory } }

def writeOctets (stream : IO.FS.Stream) (data : Bytes) : IO Unit := do
  stream.write (ByteArray.mk data.toArray)
  stream.flush

end ComposeSite.Main

/-- Runs the program on the command line's words. -/
def main (args : List String) : IO UInt32 := do
  let ending := ComposeSite.Program.run args (← ComposeSite.Main.readWorld)
  ComposeSite.Main.writeOctets (← IO.getStdout) ending.stdout
  ComposeSite.Main.writeOctets (← IO.getStderr) ending.stderr
  return ending.status.toUInt32
