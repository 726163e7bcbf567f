/-
# ComposeSite.Docker.Request -- what is asked of a daemon
-/
import ComposeSite.Http.Location
import ComposeSite.Json.Value

set_option autoImplicit false

namespace ComposeSite.Docker

structure ExecConfig where
  attachStdin : Bool
  attachStdout : Bool
  attachStderr : Bool
  terminal : Bool
  env : List String
  command : List String
  user : Option String
  directory : Option String
  deriving DecidableEq, Repr

/-- A request to a daemon. Labels filter containers by name and value. -/
inductive Request where
  | version
  | list (labels : List String)
  | inspect (container : String)
  | createExec (container : String) (config : ExecConfig)
  | startExec (api exec : String) (terminal : Bool)
  | inspectExec (exec : String)
  deriving DecidableEq, Repr

namespace Request

open Json (Value)

def optional (s : Option String) : Value :=
  match s with
  | some t => .text t
  | none => .null

def method : Request → String
  | createExec .. | startExec .. => "POST"
  | _ => "GET"

/-- The target of a request as it is put together. -/
def target : Request → String
  | version => "/version"
  | list _ => "/containers/json"
  | inspect container => s!"/containers/{container}/json"
  | createExec container _ => s!"/containers/{container}/exec"
  | startExec api exec _ => s!"/v{api}/exec/{exec}/start"
  | inspectExec exec => s!"/exec/{exec}/json"

def location (r : Request) : Http.Location := .ofTarget r.target

def query : Request → List String
  | list labels =>
      let filters : Value := .object [("label", .texts labels)]
      ["all=false", "size=false", "filters=" ++ filters.render]
  | r => r.location.query

def body? : Request → Option Value
  | createExec _ c =>
      some (.object
        [("AttachStdin", .bool c.attachStdin), ("AttachStdout", .bool c.attachStdout),
         ("AttachStderr", .bool c.attachStderr), ("DetachKeys", .null),
         ("Tty", .bool c.terminal),
         ("Env", if c.env.isEmpty then .null else .texts c.env), ("Cmd", .texts c.command),
         ("Privileged", .null), ("User", optional c.user),
         ("WorkingDir", optional c.directory)])
  | startExec _ _ terminal =>
      some (.object [("Detach", .bool false), ("Tty", .bool terminal)])
  | _ => none

/-- A request as it is logged. -/
def toJson (r : Request) : Value :=
  .object ([("request", Value.text s!"{r.method} {r.location.path}")] ++
    (if r.query.isEmpty then [] else [("query", .texts r.query)]) ++
    (match r.body? with
      | some b => [("body", b)]
      | none => []))

end Request

end ComposeSite.Docker
