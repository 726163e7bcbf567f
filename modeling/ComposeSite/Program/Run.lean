/-
# ComposeSite.Program.Run -- what the program does with a command line

The configuration is read before anything else, then the context that is asked for is
looked up, and then the command is carried out in it.  A failure is told of on the
standard error, and the process ends with a status of eight bits, unless it follows an exec
that never ends.
-/
import ComposeSite.CommandLine.Basic
import ComposeSite.Compose.Arguments
import ComposeSite.Compose.Project
import ComposeSite.Context.Config
import ComposeSite.Context.Summary
import ComposeSite.Exec.Run
import ComposeSite.Forward.Run
import ComposeSite.Session.Local

set_option autoImplicit false

namespace ComposeSite.Program

open CommandLine (Command ExecRequest Request)
open Output (Style)

/-! ## Commands -/

def compose (c : Context) (args : List String) : Act Unit := do
  let args ← .ofResult (Compose.arguments c args)
  if !c.isRemote then Compose.ensureComposeFile c
  let _ ← Session.runCommand c ⟨"docker", args⟩

def make (c : Context) (args : List String) : Act Unit := do
  let _ ← Session.runCommand c (Shell.makeCommand args)

/-- What runs in a container when no command is given. -/
def usualCommand : List String := ["sh"]

/-- What a request asks to be run in a container, with a terminal or without. -/
def execOptions (container : String) (interactive : Bool) (r : ExecRequest) : Exec.Options :=
  let options : Exec.Options :=
    { container, command := if r.command.isEmpty then usualCommand else r.command,
      env := r.env, directory := r.workdir, user := r.user, attachStdin := true }
  if interactive then options.interactive else options.plain

/-- Runs a command in a service's container, with a terminal if there is one and it is
wanted, and gives the command's exit code. -/
def exec (c : Context) (r : ExecRequest) : Act Int :=
  Docker.withDaemon c fun l => do
    let container ← Compose.findContainer l.client c r.service
    let terminal ← .look World.terminal
    let interactive := !r.noTty && terminal.isTerminal
    let options := execOptions container interactive r
    if interactive then Exec.runInteractive l.client options
    else Exec.runPlain l.client options

/-- Prints what is looked up in a service's container. -/
def printValue (c : Context) (service : String)
    (lookup : Docker.Client → String → Act String) : Act Unit := do
  let value ← Docker.withDaemon c fun l => do
    let container ← Compose.findContainer l.client c service
    lookup l.client container
  Act.printLine value

def printDatabaseUris (c : Context) : Act Unit := do
  let uris ← Docker.withDaemon c fun l => Compose.databaseUris l.client c
  Act.printLine uris.database
  match uris.tunnel with
  | some uri => Act.printLine (Style.aside.apply (← Act.styled) "SSH:" ++ " " ++ uri)
  | none => pure ()

def showContext (c : Context) : Act Unit := do
  let home ← Act.home
  for line in c.summary (Config.path home) (← Act.styled) do
    Act.printLine line

/-- The exit code of a command in a container as that of this program. -/
def clampExit (code : Int) : Int := if -0x80000000 ≤ code ∧ code < 0x80000000 then code else 1

/-- Carries out a command in a context and gives the exit code. -/
def perform (c : Context) : Command → Act Int
  | .compose args => do compose c args; pure 0
  | .exec r => clampExit <$> exec c r
  | .portForward specs => do let _ ← Forward.run c specs; pure 0
  | .secret service name => do
      printValue c service fun client container => Compose.secret client c container name
      pure 0
  | .env service name => do
      printValue c service fun client container => Compose.containerVariable client container name
      pure 0
  | .make args => do make c args; pure 0
  | .dbUri => do printDatabaseUris c; pure 0
  | .configShow => do showContext c; pure 0

/-- Does what a command line asks for in the context of a configuration. -/
def carryOut (config : Config) (r : Request) : Act Int := do
  let home ← Act.home
  let c ← .ofResult (config.context home r.context)
  perform c r.command

/-- Does what a command line asks for and gives the exit code. -/
def execute (r : Request) : Act Int := do
  let config ← Config.load
  carryOut config r

/-! ## The process -/

/-- What a process leaves behind. A status counts only if the process ends. -/
structure Ending where
  status : Nat
  stdout : Bytes
  stderr : Bytes
  ends : Bool := true
  deriving DecidableEq, Repr

/-- The status of a process that ends with an exit code: its lowest eight bits. -/
def processStatus (code : Int) : Nat := (code.emod 256).toNat

def versionLine : String := "sitectl 0.1.0\n"

def complaint (styled : Bool) (f : Failure) : String :=
  Style.alarm.apply styled "Error:" ++ " " ++ f.message ++ "\n"

/-- What a process leaves behind that fails. Nothing is said of an exec that never ends. -/
def failed (styled : Bool) (f : Failure) (t : Trace) : Ending :=
  if f.isEndless then
    { status := 0, stdout := t.stdout.accepted, stderr := t.stderr.accepted, ends := false }
  else
    { status := 1, stdout := t.stdout.accepted,
      stderr := t.stderr.accepted ++ Text.Utf8.encode (complaint styled f) }

/-- Runs the program. A command line that cannot be read is only told of by the status. -/
def run (args : List String) (w : World) : Ending :=
  match CommandLine.read w.environment args with
  | .error .version => { status := 0, stdout := Text.Utf8.encode versionLine, stderr := [] }
  | .error r => { status := if r.isAnswer then 0 else 2, stdout := [], stderr := [] }
  | .ok r =>
      match execute r w {} with
      | (.ok code, t) =>
          { status := processStatus code, stdout := t.stdout.accepted, stderr := t.stderr.accepted }
      | (.error f, t) => failed (Style.isForced w.environment) f t

end ComposeSite.Program
