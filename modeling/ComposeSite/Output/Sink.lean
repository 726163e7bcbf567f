/-
# ComposeSite.Output.Sink -- where output goes

A sink accepts everything, or a given number of octets in all.  A write that does
not fit is accepted as far as it fits and then fails; an empty write never fails.
-/
import ComposeSite.Bytes

set_option autoImplicit false

namespace ComposeSite.Output

/-- What was accepted so far, and how much is accepted in all. -/
structure Sink where
  limit : Option Nat := none
  accepted : Bytes := []
  deriving DecidableEq, Repr

namespace Sink

/-- A sink that accepts everything. -/
def unlimited : Sink := {}

def fits (s : Sink) (data : Bytes) : Bool :=
  match s.limit with
  | none => true
  | some limit => data.isEmpty || s.accepted.length + data.length ≤ limit

def fitting (s : Sink) (data : Bytes) : Bytes :=
  match s.limit with
  | none => data
  | some limit => data.take (limit - s.accepted.length)

/-- Writes octets: the sink afterwards, and whether all of them were accepted. -/
def write (s : Sink) (data : Bytes) : Sink × Bool :=
  ({ s with accepted := s.accepted ++ s.fitting data }, s.fits data)

end Sink

/-- One read of a stream: octets, of which none means that the stream has ended, or a
failure. -/
inductive Read where
  | chunk (data : Bytes)
  | failure (text : String)
  deriving DecidableEq, Repr

def sinkFull : String := "sink full"

end ComposeSite.Output
