/-
# ComposeSite.Exec.Attached -- following an exec that has been started

Two things go on at once: what the exec puts out is copied to the sinks (`Delivery`), and its
input is copied to it (`Pump`).  They take turns in any order (`Attached.step`).  Only the
output decides when the exec is over: an input that has ended, or that cannot be read or taken
any more, is closed, and nothing else comes of it.

An exec that waits puts nothing out before its input has been closed.
-/
import ComposeSite.Docker.Daemon
import ComposeSite.Exec.Frame

set_option autoImplicit false

namespace ComposeSite.Exec

open Output (Read Sink)

/-! ## Output -/

/-- What has come of copying output: the sinks afterwards, and how it ended. -/
structure Delivered where
  stdout : Sink
  stderr : Sink
  result : Except Failure Unit

/-- Output that is being copied: as it is, or frame after frame; or all that has come of it. -/
inductive Delivery where
  | raw (stdout stderr : Sink) (reads : List Read)
  | framed (c : Copying)
  | ended (d : Delivered)

/-- What comes of splitting a stream, apart from the numbers. -/
def Split.delivered (s : Split) : Delivered := ⟨s.stdout, s.stderr, s.result.map fun _ => ()⟩

def copy (sink : Sink) : List Read → Sink × Except Failure Unit
  | [] | .chunk [] :: _ => (sink, .ok ())
  | .failure text :: _ => (sink, .error (readFailure text))
  | .chunk (b :: bs) :: rest =>
      match sink.write (b :: bs) with
      | (sink, true) => copy sink rest
      | (sink, false) => (sink, .error sinkFailure)

namespace Delivery

/-- Output of an exec that is to be copied. -/
def start (tty : Bool) (stdout stderr : Sink) (reads : List Read) : Delivery :=
  if tty then .raw stdout stderr reads else .framed { stdout, stderr, reads }

/-- Copies what one read brings, or one frame. -/
def step : Delivery → Delivery
  | .raw stdout stderr [] | .raw stdout stderr (.chunk [] :: _) => .ended ⟨stdout, stderr, .ok ()⟩
  | .raw stdout stderr (.failure text :: _) => .ended ⟨stdout, stderr, .error (readFailure text)⟩
  | .raw stdout stderr (.chunk (b :: bs) :: rest) =>
      match stdout.write (b :: bs) with
      | (stdout, true) => .raw stdout stderr rest
      | (stdout, false) => .ended ⟨stdout, stderr, .error sinkFailure⟩
  | .framed c =>
      match c.turn with
      | .more next => .framed next
      | .done s => .ended s.delivered
  | .ended d => .ended d

/-- Copies everything that is left. -/
def finish : Delivery → Delivered
  | .raw stdout stderr reads =>
      let (stdout, result) := copy stdout reads
      ⟨stdout, stderr, result⟩
  | .framed c => c.run.delivered
  | .ended d => d

/-- What has come of output, if all of it has been copied. -/
def delivered? : Delivery → Option Delivered
  | .ended d => some d
  | _ => none

end Delivery

/-! ## Input -/

/-- Input that is being copied to an exec: what is left of it, what the exec has been given, and
whether its input has been closed. -/
structure Pump where
  reads : List Read
  given : Sink := {}
  closed : Bool := false

namespace Pump

/-- Copies what one read brings. At the end of the input, or if it cannot be read or the exec
takes no more of it, the exec's input is closed. -/
def step (p : Pump) : Pump :=
  if p.closed then p
  else
    match p.reads with
    | .chunk (b :: bs) :: rest =>
        let (given, taken) := p.given.write (b :: bs)
        ⟨rest, given, !taken⟩
    | _ => { p with closed := true }

/-- Copies what reads bring and closes the input. -/
def drain (given : Sink) : List Read → Pump
  | .chunk (b :: bs) :: rest =>
      match given.write (b :: bs) with
      | (given, true) => drain given rest
      | (given, false) => ⟨rest, given, true⟩
  | reads => ⟨reads, given, true⟩

def finish (p : Pump) : Pump := if p.closed then p else drain p.given p.reads

end Pump

/-! ## Both -/

/-- Which of the two takes its turn. -/
inductive Side where
  | input
  | output
  deriving DecidableEq, Repr

/-- An exec that is being followed: whether it waits for its input, the input that is being
copied to it, if it is given any, and its output. -/
structure Attached where
  waits : Bool
  pump : Option Pump
  delivery : Delivery

namespace Attached

/-- Whether the exec puts anything out. -/
def ready (a : Attached) : Bool := !a.waits || a.pump.any (·.closed)

/-- One side takes its turn. Once all output has been copied, no input is copied any more. -/
def step (a : Attached) : Side → Attached
  | .input =>
      if a.delivery.delivered?.isSome then a else { a with pump := a.pump.map Pump.step }
  | .output => if a.ready then { a with delivery := a.delivery.step } else a

def run (a : Attached) (schedule : List Side) : Attached := schedule.foldl step a

/-- Unless it is over, both sides come to their ends: first the input, and then, if the exec does
not wait for ever, the output. -/
def settle (a : Attached) : Attached :=
  if a.delivery.delivered?.isSome then a
  else
    let a := { a with pump := a.pump.map Pump.finish }
    if a.ready then { a with delivery := .ended a.delivery.finish } else a

def fed (a : Attached) : Docker.Fed where
  octets := (a.pump.map (·.given.accepted)).getD []
  closed := a.pump.any (·.closed)
  awaited := a.waits

end Attached

end ComposeSite.Exec
