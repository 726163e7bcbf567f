/-
# ComposeSite.Exec.Run -- running a command in a container

An exec is created, started and followed to the end of its output; only then is its
exit code asked for. With a terminal the output is taken as it is, and without one it
is split into two streams. How the streams go in detail, in which pieces and in which
order, is a `Course`.
-/
import ComposeSite.Docker.Attach
import ComposeSite.Exec.Attached

set_option autoImplicit false

namespace ComposeSite.Exec

open Docker (Client)
open Output (Read Sink)

structure Options where
  container : String
  command : List String
  env : List String := []
  directory : Option String := none
  user : Option String := none
  attachStdin : Bool := false
  attachStdout : Bool := false
  attachStderr : Bool := false
  tty : Bool := false
  deriving DecidableEq, Repr

namespace Options

/-- Output only, without a terminal. -/
def plain (o : Options) : Options :=
  { o with attachStdout := true, attachStderr := true, tty := false }

/-- All streams, with a terminal. -/
def interactive (o : Options) : Options :=
  { o with attachStdin := true, attachStdout := true, attachStderr := true, tty := true }

def config (o : Options) : Docker.ExecConfig where
  attachStdin := o.attachStdin
  attachStdout := o.attachStdout
  attachStderr := o.attachStderr
  terminal := o.tty
  env := o.env
  command := o.command
  user := o.user
  directory := o.directory

end Options

/-- How an exec's streams go, which is not in the hands of this program: the reads that bring the
input, if there is any; how much of it the exec takes; how output is cut into pieces on its way;
and which side takes its turn when. -/
structure Course where
  input : Option (List Read)
  room : Option Nat := none
  cut : Bytes → List Bytes
  schedule : List Side := []
  cut_flatten : ∀ output, (cut output).flatten = output
  cut_nonempty : ∀ output, ∀ piece ∈ cut output, piece ≠ []

/-- Octets in one piece, or in none if there are none. -/
def whole (data : Bytes) : List Bytes := if data.isEmpty then [] else [data]

theorem whole_flatten (data : Bytes) : (whole data).flatten = data := by
  cases data with
  | nil => rfl
  | cons b bs => exact List.append_nil _

theorem whole_nonempty (data : Bytes) : ∀ piece ∈ whole data, piece ≠ [] := by
  cases data with
  | nil => exact fun _ mem => absurd mem List.not_mem_nil
  | cons b bs =>
      intro piece mem
      rw [List.mem_singleton.mp mem]
      exact List.cons_ne_nil b bs

namespace Course

/-- Input and output come in one piece, the exec takes all of the input, and does so first. -/
def smooth (input : Option Bytes) : Course where
  input := input.map fun data => (whole data).map .chunk
  cut := whole
  cut_flatten := whole_flatten
  cut_nonempty := whole_nonempty

end Course

/-- The failure with which reading the output of an exec breaks off, if it does. Where the output
comes as a plain body, that is taken for its end. -/
def breakOff (d : Docker.Daemon) (s : Docker.Started) : Option String :=
  if s.switched then d.breaksOff else none

/-- The reads that the output of an exec comes in. -/
def arrival (pieces : List Bytes) (breaksOff : Option String) : List Read :=
  pieces.map .chunk ++ (breaksOff.map .failure).toList

/-- The input that is copied to an exec, if its streams have been attached and there is any. -/
def pump? (o : Options) (c : Course) (s : Docker.Started) : Option Pump :=
  if o.attachStdin && s.switched then
    c.input.map fun reads => { reads, given := { limit := c.room } }
  else none

/-- Follows an exec until all of its output has been copied to the sinks. -/
def follow (client : Client) (o : Options) (c : Course) (exec : String) (s : Docker.Started) :
    Act Unit := fun _ t =>
  let reads := arrival (c.cut s.output) (breakOff client.daemon s)
  let attached : Attached := {
    waits := client.daemon.execWaits
    pump := pump? o c s
    delivery := .start o.tty t.stdout t.stderr reads }
  let ended := (attached.run c.schedule).settle
  let t := t.followed ended.fed
  match ended.delivery.delivered? with
  | some d => (d.result, { t with stdout := d.stdout, stderr := d.stderr })
  | none => (.error (.attach exec .endless), t)

/-- Runs a command in a container, the streams taking some course, and gives its exit code. -/
def attend (client : Client) (o : Options) (c : Course) : Act Int := do
  let exec ← client.createExec o.container o.config
  let started ← client.startExec exec o.tty
  follow client o c exec started
  match ← client.inspectExec exec with
  | some code => pure code
  | none => .fail (.attach exec .noExitCode)

/-- Runs a command in a container and gives its exit code. -/
def run (client : Client) (o : Options) (input : Option Bytes) : Act Int :=
  attend client o (.smooth input)

/-- Runs a command without a terminal on the streams of this process. -/
def runPlain (client : Client) (o : Options) : Act Int := fun w t =>
  run client o.plain (some w.stdin) w t

/-- Runs a command with a terminal on the streams of this process, the local terminal in raw
mode meanwhile. -/
def runInteractive (client : Client) (o : Options) : Act Int := fun w t =>
  (run client o.interactive (some w.stdin)).inRawMode w t

end ComposeSite.Exec
