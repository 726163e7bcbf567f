/-
# ComposeSite.CommandLine.Basic -- what a command line asks for

Options that hold for all commands may stand at any place, where the last one counts; a
variable stands in for one that is not given at all.
-/
import ComposeSite.CommandLine.Reading
import ComposeSite.Environment

set_option autoImplicit false

namespace ComposeSite.CommandLine

/-- What to run in a service's container, and how. -/
structure ExecRequest where
  noTty : Bool
  user : Option String
  workdir : Option String
  env : List String
  service : String
  command : List String
  deriving DecidableEq, Repr

inductive Command where
  | compose (args : List String)
  | exec (request : ExecRequest)
  | portForward (specs : List String)
  | secret (service name : String)
  | env (service name : String)
  | make (args : List String)
  | dbUri
  | configShow
  deriving DecidableEq, Repr

/-- What is to be done, for which context, and how much is to be told about it. -/
structure Request where
  context : Option String
  logLevel : String
  command : Command
  deriving DecidableEq, Repr

/-- The variable that stands in for the context. -/
def contextVariable : String := "SITECTL_CONTEXT"

def logVariable : String := "LOG_LEVEL"

/-- The level of logs that is used when none is asked for. -/
def usualLogLevel : String := "info"

/-- The value of an option that may stand at any place: the last place where it is given
counts. -/
def shared? (readings : List (Place × Reading)) (k : Key) : Option String :=
  readings.findSome? fun (_, r) => r.value? k

def commandAt (p : Place) (r : Reading) : Option Command :=
  let word (slot : Nat) : String := ((r.slotWords slot).head?).getD ""
  match p with
  | .compose => some (.compose (r.slotWords 0))
  | .exec => some (.exec
      { noTty := r.has .noTty, user := r.value? .user, workdir := r.value? .workdir,
        env := r.values .env, service := word 0, command := r.slotWords 1 })
  | .portForward => some (.portForward (r.slotWords 0))
  | .secret => some (.secret (word 0) (word 1))
  | .env => some (.env (word 0) (word 1))
  | .make => some (.make (r.slotWords 0))
  | .dbUri => some .dbUri
  | .configShow => some .configShow
  | .top | .config => none

/-- How many places a command line has at most. -/
def deepest : Nat := 3

def read (e : Environment) (words : List String) : Except Refusal Request := do
  let context := e.get? contextVariable
  let level := e.get? logVariable
  let readings ← Reading.readFrom (context.isSome || level.isSome) deepest .top words
  match readings.head?.bind fun (p, r) => commandAt p r with
  | some command =>
      pure
        { context := (shared? readings .context).or context,
          logLevel := ((shared? readings .logLevel).or level).getD usualLogLevel,
          command }
  | none => throw .missingCommand

end ComposeSite.CommandLine
