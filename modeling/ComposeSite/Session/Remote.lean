/-
# ComposeSite.Session.Remote -- a remote command under a terminal

What the far side sends and what is typed here arrive on one timeline of steps.
Output goes to one sink in arrival order, typed octets are sent on in pieces, and
the first of a close, the end of the timeline, a sink that is full and a send that
fails ends the session.
-/
import ComposeSite.Output.LastLine
import ComposeSite.Output.Sink
import ComposeSite.Terminal

set_option autoImplicit false

namespace ComposeSite.Session

inductive Message where
  | stdout (data : Bytes)
  | stderr (data : Bytes)
  | exitStatus (code : Nat)
  | exitSignal
  | notice
  | close
  deriving DecidableEq, Repr

inductive Input where
  | octets (data : Bytes)
  | ended
  | failed (text : String)
  deriving DecidableEq, Repr

/-- One step of the timeline. -/
inductive Step where
  | message (m : Message)
  | input (i : Input)
  deriving DecidableEq, Repr

inductive Sent where
  | data (bytes : Bytes)
  | eof
  deriving DecidableEq, Repr

/-- A session in progress. `allowance` is the number of sends that still work, if that is
limited; the steps that were looked at and the sends that were made are logged. -/
structure State where
  sink : Output.Sink
  last : Output.LastLine := {}
  exit : Option Nat := none
  inputOpen : Bool := true
  sent : List Sent := []
  allowance : Option Nat := none
  log : List Terminal.Event := []
  deriving DecidableEq, Repr

/-- What a channel says that no longer takes data. -/
def channelClosed : Failure := .ssh (.stated "channel closed")

/-- The most octets that are read from the terminal at once. -/
def pieceSize : Nat := 1024

namespace State

def work (s : State) : State := { s with log := s.log ++ [.work] }

/-- Sends something, unless the channel no longer takes it. -/
def send (s : State) (x : Sent) : Except Failure State :=
  match s.allowance with
  | some 0 => .error channelClosed
  | some (n + 1) => .ok { s.work with sent := s.sent ++ [x], allowance := some n }
  | none => .ok { s.work with sent := s.sent ++ [x] }

def output (s : State) (data : Bytes) : State × Bool :=
  let (sink, ok) := s.sink.write data
  if ok then ({ s with sink := sink, last := s.last.push data }, true)
  else ({ s with sink := sink }, false)

/-- Sends octets piece by piece: the state afterwards, and the failure with the octets not
yet looked at if a send failed. The fuel is the number of octets. -/
def sendPieces : Nat → State → Bytes → State × Option (Failure × Bytes)
  | 0, s, _ => (s, none)
  | fuel + 1, s, data =>
      if data.isEmpty then (s, none)
      else
        match s.send (.data (data.take pieceSize)) with
        | .error f => (s, some (f, data.drop pieceSize))
        | .ok s => sendPieces fuel s (data.drop pieceSize)

end State

/-- Where a session stands when it ends: its state, the steps it did not look at, and the
failure that ended it, if any. -/
structure End where
  state : State
  rest : List Step
  failure : Option Failure

/-- Runs a session over a timeline. -/
def run (s : State) : List Step → End
  | [] => ⟨s, [], none⟩
  | .message m :: rest =>
      let s := s.work
      match m with
      | .stdout data | .stderr data =>
          match s.output data with
          | (s, true) => run s rest
          | (s, false) => ⟨s, rest, some (.io (.other Output.sinkFull))⟩
      | .exitStatus code => run { s with exit := some code } rest
      | .exitSignal | .notice => run s rest
      | .close => ⟨s, rest, none⟩
  | .input i :: rest =>
      let s := s.work
      if !s.inputOpen then run s rest
      else
        match i with
        | .octets (b :: bs) =>
            let data := b :: bs
            match s.sendPieces data.length data with
            | (s, none) => run s rest
            | (s, some (f, unread)) =>
                ⟨s, if unread.isEmpty then rest else .input (.octets unread) :: rest, some f⟩
        | .octets [] | .ended =>
            let s := { s with inputOpen := false }
            match s.send .eof with
            | .error f => ⟨s, rest, some f⟩
            | .ok s => run s rest
        | .failed _ => run { s with inputOpen := false } rest

/-- The exit status that a remote command has when it is interrupted by hand. -/
def interrupted : Nat := 130

/-- What the exit status of a remote command means. -/
def outcome (line : String) (exit : Option Nat) (last : String) : Except Failure String :=
  match exit with
  | some code =>
      if code = 0 ∨ code = interrupted then .ok last else .error (.remoteExit line code)
  | none => .error (.command line .noStatus)

/-- The exit status and the last line of output of a session, unless it ended with a failure. -/
def End.report (e : End) : Except Failure (Option Nat × String) :=
  match e.failure with
  | some f => .error f
  | none => .ok (e.state.exit, e.state.last.finish)

/-- Runs a remote command over a timeline with the terminal in raw mode, with what happens to the
terminal and beside it. The state of the work is the session before and after it together with
the steps not looked at. -/
def conduct (t : Terminal) (line : String) : Terminal.Work (State × List Step) String := fun s =>
  let body : Terminal.Work (State × List Step) (Option Nat × String) := fun (s, steps) =>
    let e := run s steps
    (e.state.log.drop s.log.length, (e.state, e.rest), e.report)
  let (events, s, result) := t.withRawMode body s
  (events, s, result >>= fun (exit, last) => outcome line exit last)

/-- Runs a remote command over a timeline with the terminal in raw mode, with what happens to the
terminal. -/
def drive (t : Terminal) (line : String) : Terminal.Work (State × List Step) String := fun s =>
  let (events, s, result) := conduct t line s
  (events.filter (·.isMode), s, result)

end ComposeSite.Session
