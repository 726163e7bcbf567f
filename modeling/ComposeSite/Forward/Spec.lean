/-
# ComposeSite.Forward.Spec -- what to forward

A spec is a local port, a service and a remote port between colons.
-/
import ComposeSite.Failure
import ComposeSite.Text.Numeral
import ComposeSite.Text.Split

set_option autoImplicit false

namespace ComposeSite.Forward

/-- A local port and the port of a service that it leads to. -/
structure Spec where
  localPort : UInt16
  service : String
  remotePort : UInt16
  deriving DecidableEq, Repr

namespace Spec

def port? (cs : List Char) : Option UInt16 :=
  (Text.Numeral.unsigned? Text.Numeral.max16 cs).map UInt16.ofNat

/-- Reads one spec; the first thing wrong with it is the failure. -/
def parseChars (cs : List Char) : Except SpecFailure Spec :=
  match Text.split ':' cs with
  | [near, service, far] =>
      match port? near with
      | none => .error (.localPort (String.ofList near))
      | some localPort =>
          match port? far with
          | none => .error (.remotePort (String.ofList far))
          | some remotePort =>
              if service.isEmpty then .error .noService
              else .ok ⟨localPort, String.ofList service, remotePort⟩
  | _ => .error .shape

def parse (s : String) : Except Failure Spec :=
  (parseChars s.toList).mapError (.forwardSpec s)

/-- Reads all specs; the first malformed one is the failure. -/
def parseAll (specs : List String) : Except Failure (List Spec) :=
  specs.mapM parse

def render (s : Spec) : String := s!"{s.localPort}:{s.service}:{s.remotePort}"

end Spec

end ComposeSite.Forward
