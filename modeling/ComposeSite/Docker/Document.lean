/-
# ComposeSite.Docker.Document -- what a daemon's answers say

Only a few members of a daemon's documents matter. They may all be missing or null,
but what is there must be of the right kind.
-/
import ComposeSite.Docker.Daemon
import ComposeSite.Failure
import ComposeSite.Json.Decode

set_option autoImplicit false

namespace ComposeSite.Docker

open Json (Reader Node Fault)

/-- A member that may be missing or null, in an object that has a name in messages. -/
def optionalMember {α : Type} (owner key : String) (read : Reader α) : Reader (Option α) :=
  fun n => (Reader.member ("struct " ++ owner) key (Reader.optional read) n).map Option.join

/-- A directory or file of the host that a container sees. -/
structure Mount where
  source : Option String
  destination : Option String
  deriving DecidableEq, Repr

/-- What the inspection of a container says: the addresses on its networks, its environment
and its mounts, as far as they are stated. -/
structure Inspection where
  networks : Option (List (String × Option String))
  environment : Option (List String)
  mounts : Option (List Mount)
  deriving DecidableEq, Repr

/-- A container in a list. -/
structure Summary where
  names : Option (List String)
  deriving DecidableEq, Repr

namespace Document

def apiVersion : Reader (Option String) := optionalMember "SystemVersion" "ApiVersion" Reader.text

def mount : Reader Mount :=
  Reader.object "struct MountPoint" ⟨none, none⟩ fun
    | "Source" => some fun m n => (Reader.optional Reader.text n).map fun s =>
        { m with source := s }
    | "Destination" => some fun m n => (Reader.optional Reader.text n).map fun s =>
        { m with destination := s }
    | _ => none

def inspection : Reader Inspection :=
  Reader.object "struct ContainerInspectResponse" ⟨none, none, none⟩ fun
    | "NetworkSettings" => some fun i n => do
        let networks ← Reader.optional (optionalMember "NetworkSettings" "Networks"
          (Reader.table (optionalMember "EndpointSettings" "IPAddress" Reader.text))) n
        pure { i with networks := networks.join }
    | "Config" => some fun i n => do
        let environment ← Reader.optional
          (optionalMember "ContainerConfig" "Env" (Reader.list Reader.text)) n
        pure { i with environment := environment.join }
    | "Mounts" => some fun i n => (Reader.optional (Reader.list mount) n).map fun ms =>
        { i with mounts := ms }
    | _ => none

def summaryMember : String → Option (Summary → Reader Summary)
  | "Names" => some fun s n => (Reader.optional (Reader.list Reader.text) n).map fun names =>
      { s with names := names }
  | "Labels" => some fun s n => (Reader.optional (Reader.table Reader.text) n).map fun _ => s
  | _ => none

def summary : Reader Summary := Reader.object "struct ContainerSummary" ⟨none⟩ summaryMember

def summaries : Reader (List Summary) := Reader.list summary

def execId : Reader String := Reader.required "struct CreateExecResults" "Id" Reader.text

/-- The smallest and the largest exit code. -/
def lowestCode : Int := -9223372036854775808

@[inherit_doc lowestCode]
def highestCode : Int := 9223372036854775807

def exitCode : Reader (Option Int) :=
  optionalMember "ExecInspectResponse" "ExitCode"
    (Reader.integer lowestCode highestCode "i64")

def refusal : Reader String := fun n =>
  match n with
  | .array _ [text] (.closed _) => Reader.text text
  | n => Reader.required "struct DockerServerErrorMessage" "message" Reader.text n

end Document

namespace Response

def isSuccess (r : Response) : Bool :=
  (200 ≤ r.status && r.status < 300) || r.status = 304 || r.status = 101

def text (r : Response) : String := Text.Utf8.decodeLossy r.body

/-- What an answer that is no success says. -/
def failure (r : Response) : DockerFailure :=
  if r.text.isEmpty then .status r.status ""
  else
    match Reader.run Document.refusal r.text.toList with
    | .ok message => .status r.status message
    | .error f =>
        match f.cause with
        | .defect d => if d.isEnd then .json f else .status r.status r.text
        | .data _ => .status r.status r.text

def read {α : Type} (r : Response) (reader : Reader α) : Except DockerFailure α :=
  if r.isSuccess then
    (Reader.run reader r.text.toList).mapError fun f =>
      match f.cause with
      | .data _ => .data f
      | .defect _ => .json f
  else .error r.failure

end Response

end ComposeSite.Docker
