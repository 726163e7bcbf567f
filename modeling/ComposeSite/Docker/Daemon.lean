/-
# ComposeSite.Docker.Daemon -- a daemon as a function of requests

A daemon knows its containers as documents, runs one exec, and may answer some
kinds of requests with a fixed response instead.
-/
import ComposeSite.Docker.Request
import ComposeSite.Output.Sink

set_option autoImplicit false

namespace ComposeSite.Docker

open Json (Value)

/-- A container as it is listed and as it is inspected. -/
structure Container where
  summary : Value
  inspection : Option Value
  deriving Repr

/-- What an exec does: its output piece by piece, its exit code, and whether it waits for
its input to end. -/
structure ExecScript where
  id : String
  output : List Bytes
  exitCode : Option Int
  awaitsInput : Bool
  plainBody : Bool
  deriving DecidableEq, Repr

/-- What an exec was given: octets of its input, whether its input was closed behind them, and
whether it waited for that. -/
structure Fed where
  octets : Bytes := []
  closed : Bool := false
  awaited : Bool := false
  deriving DecidableEq, Repr

structure Response where
  status : Nat
  body : Bytes
  deriving DecidableEq, Repr

inductive Topic where
  | version
  | list
  | inspect
  | create
  | start
  | execInspect
  deriving DecidableEq, Repr

def Request.topic : Request → Topic
  | version => .version
  | list _ => .list
  | inspect _ => .inspect
  | createExec .. => .create
  | startExec .. => .start
  | inspectExec _ => .execInspect

/-- A daemon. The output of its exec may break off, which is a failure to read on where the
connection has been switched over to it. -/
structure Daemon where
  apiVersion : String
  containers : List Container
  exec : ExecScript
  responses : List (Topic × Response)
  breaksOff : Option String := none
  deriving Repr

namespace Container

def names (c : Container) : List String :=
  (((c.summary.get? "Names").bind Value.items?).getD []).filterMap Value.text?

def label? (c : Container) (name : String) : Option String :=
  ((c.summary.get? "Labels").bind (·.get? name)).bind Value.text?

/-- Whether a container satisfies a filter: a label alone must be there, and one with a
value must have it. -/
def satisfies (c : Container) (labelFilter : String) : Bool :=
  match Text.splitOnce? '=' labelFilter.toList with
  | some (name, value) => c.label? (String.ofList name) == some (String.ofList value)
  | none => (c.label? labelFilter).isSome

end Container

namespace Daemon

def reply (status : Nat) (v : Value) : Response := ⟨status, Text.Utf8.encode v.render⟩

def refusal (status : Nat) (message : String) : Response :=
  reply status (.object [("message", .text message)])

/-- The containers that satisfy all filters, in order. -/
def matching (d : Daemon) (labels : List String) : List Container :=
  d.containers.filter fun c => labels.all c.satisfies

/-- The first container of a name, as the daemon knows names. -/
def named? (d : Daemon) (name : String) : Option Container :=
  d.containers.find? fun c => c.names.contains ("/" ++ name)

/-- The name in a location between two given parts. -/
def nameBetween? (before after path : String) : Option String :=
  let cs := path.toList
  let front := before.toList
  let back := after.toList
  if front.isPrefixOf cs && back.isSuffixOf cs && front.length + back.length ≤ cs.length then
    some (String.ofList ((cs.drop front.length).take (cs.length - front.length - back.length)))
  else none

/-- The answer to a request when no fixed response takes its place. -/
def answerOf (d : Daemon) : Request → Response
  | .version => reply 200 (.object [("ApiVersion", .text d.apiVersion)])
  | .list labels => reply 200 (.array ((d.matching labels).map (·.summary)))
  | .inspect container =>
      match nameBetween? "/containers/" "/json" (Request.inspect container).location.path with
      | none => refusal 404 "page not found"
      | some name =>
          match (d.named? name).bind (·.inspection) with
          | some v => reply 200 v
          | none => refusal 404 s!"No such container: {name}"
  | .createExec .. => reply 201 (.object [("Id", .text d.exec.id)])
  | .startExec .. => ⟨if d.exec.plainBody then 200 else 101, d.exec.output.flatten⟩
  | .inspectExec _ =>
      reply 200 (.object [("ID", .text d.exec.id), ("Running", .bool false),
        ("ExitCode", match d.exec.exitCode with
          | some n => .int n
          | none => .null)])

def answer (d : Daemon) (r : Request) : Response :=
  match d.responses.lookup r.topic with
  | some fixed => fixed
  | none => d.answerOf r

/-- Whether the exec puts nothing out before its input has been closed. A fixed response stands
for no exec. -/
def execWaits (d : Daemon) : Bool :=
  d.exec.awaitsInput && (d.responses.lookup .start).isNone

end Daemon

end ComposeSite.Docker
