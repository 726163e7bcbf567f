/-
# ComposeSite.Output.Echo -- a child's output, line by line

The output of a local command is shown line by line as it arrives and its last
line is tracked.  A sink that fails is not written to again, while the command's
output is still read to its end so that the command never notices.  After a
failing read the rest of the output is read and dropped.
-/
import ComposeSite.Output.LastLine
import ComposeSite.Output.Sink

set_option autoImplicit false

namespace ComposeSite.Output

/-- The state between two reads: `held` is an unfinished line. -/
structure Echo where
  sink : Sink
  echoing : Bool := true
  held : Bytes := []
  last : LastLine := {}
  deriving DecidableEq, Repr

namespace Echo

/-- Shows and tracks one line, or the end of an unfinished one. -/
def emit (e : Echo) (line : Bytes) : Echo :=
  let last := e.last.push line
  if e.echoing then
    let (sink, ok) := e.sink.write line
    { e with sink := sink, echoing := ok, last := last }
  else { e with last := last }

def take (e : Echo) (data : Bytes) : Echo :=
  let parts := Text.split LastLine.lineFeed (e.held ++ data)
  let shown := parts.dropLast.foldl (fun e part => e.emit (part ++ [LastLine.lineFeed])) e
  { shown with held := (parts.getLast?).getD [] }

/-- Ends the line that is held, as the end of the stream does. -/
def release (e : Echo) : Echo := { e.emit e.held with held := [] }

/-- The reads left after dropping everything up to the end of the stream or a failure. -/
def drain : List Read → List Read
  | [] => []
  | .chunk [] :: rest => rest
  | .failure _ :: rest => rest
  | .chunk (_ :: _) :: rest => drain rest

/-- Reads a stream to its end: the state afterwards and the reads that were not needed.
An empty read ends the stream only when no line is held. -/
def run (e : Echo) : List Read → Echo × List Read
  | [] => (if e.held.isEmpty then e else e.release, [])
  | .chunk [] :: rest =>
      if e.held.isEmpty then (e, rest) else run e.release rest
  | .chunk (b :: bs) :: rest => run (e.take (b :: bs)) rest
  | .failure _ :: rest => ({ e with held := [] }, drain rest)

end Echo

end ComposeSite.Output
