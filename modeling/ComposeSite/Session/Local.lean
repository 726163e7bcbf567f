/-
# ComposeSite.Session.Local -- a command on this machine

A local command runs in the project's directory.  Its output is echoed line by line, what
it complains of passes through, and its last line is its result; what a context says of
its host plays no part.
-/
import ComposeSite.Output.Echo
import ComposeSite.Script.Run
import ComposeSite.Ssh.Connection

set_option autoImplicit false

namespace ComposeSite.Session

/-- The directory that a context's commands run in on this machine. -/
def enterDirectory (files : Host.FileTree) (directory : Option String) :
    Except IoFailure Host.FileTree :=
  match directory with
  | none => .ok files
  | some path =>
      match files.resolve path with
      | .ok (l, .directory) => .ok { files with workDirectory := l }
      | .ok _ => .error .notDirectory
      | .error f => .error f

/-- What is said of words that no program can be given. -/
def nulInWord : IoFailure := .other "nul byte found in provided data"

/-- What a command is to be started with on this machine. -/
def childHere (w : World) (c : Context) (command : Shell.Command) :
    Except IoFailure Script.Start := do
  let directory := c.directory? w.environment.home
  if (directory.toList ++ command.words).any fun word => word.toList.contains '\x00' then
    throw nulInWord
  let files ← enterDirectory w.files directory
  pure ⟨command.program, command.args, files, w.environment, w.stdin⟩

/-- Starts a program and notes what it was started with. A program that cannot be started is not
noted. -/
def launch (child : Script.Start) : Act (Except IoFailure Script.Outcome) := fun _ t =>
  match Script.start child with
  | .ok o => (.ok (.ok o), { t with started := t.started ++ [child] })
  | .error f => (.ok (.error f), t)

/-- Shows what a program puts out and complains of, and gives its last line of output. -/
def hear (line : String) (o : Script.Outcome) : Act String := fun _ t =>
  let (echo, _) := Output.Echo.run { sink := t.stdout } [.chunk o.stdout]
  (if o.status.success then .ok echo.last.finish else .error (.command line (.ended o.status)),
    { t with stdout := echo.sink, stderr := (t.stderr.write o.stderr).1 })

/-- Runs a command on this machine and gives its last line of output. -/
def runHere (c : Context) (command : Shell.Command) : Act String := do
  let child ← .examine fun w =>
    (childHere w c command).mapError fun f => .command command.line (.notStarted f)
  match ← launch child with
  | .ok o => hear command.line o
  | .error f => .fail (.command command.line (.notStarted f))

/-- Runs a command where the project of a context is and gives its last line of output. -/
def runCommand (c : Context) (command : Shell.Command) : Act String :=
  match c.kind with
  | .here => runHere c command
  | .remote => Ssh.onHost c fun connection => connection.run (Shell.remoteLine c command)

end ComposeSite.Session
