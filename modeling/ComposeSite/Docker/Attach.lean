/-
# ComposeSite.Docker.Attach -- starting an exec and taking over its connection

The request to start an exec asks for a switch of protocols. After the switch the
connection carries the exec's output; a daemon that does not switch may answer with the
output as a plain body.
-/
import ComposeSite.Docker.Client
import ComposeSite.Http.Response
import ComposeSite.Http.Status

set_option autoImplicit false

namespace ComposeSite.Docker.Attach

/-- Whether a character may stand in the path of a request's target. -/
def isPathChar (c : Char) : Bool :=
  let n := c.toNat
  n = 0x21 || (0x24 ≤ n && n ≤ 0x3B) || n = 0x3D || (0x40 ≤ n && n ≤ 0x5F) ||
    (0x61 ≤ n && n ≤ 0x7E) || n = 0x22 || n > 0x7E

/-- Whether a character may stand in the query of a request's target. -/
def isQueryChar (c : Char) : Bool :=
  let n := c.toNat
  n = 0x21 || (0x24 ≤ n && n ≤ 0x3B) || n = 0x3D || n ≥ 0x3F

/-- The target as it is sent: what follows a hash sign is left out. -/
def sentTarget? (target : String) : Option String :=
  let sent := target.toList.takeWhile (· ≠ '#')
  let path := sent.takeWhile (· ≠ '?')
  let query := (sent.dropWhile (· ≠ '?')).drop 1
  if path.all isPathChar && query.all isQueryChar then some (String.ofList sent) else none

def requestBody (tty : Bool) : String :=
  (Json.Value.object [("Detach", .bool false), ("Tty", .bool tty)]).render

/-- The first lines of the request. -/
def requestHead (target : String) (tty : Bool) : String :=
  let length := (requestBody tty).utf8ByteSize
  s!"POST {target} HTTP/1.1\r\nhost: docker\r\ncontent-type: application/json\r\n" ++
  s!"content-length: {length}\r\nconnection: Upgrade\r\nupgrade: tcp\r\n\r\n"

/-- The failure of an exec that could not be taken over. -/
def failure (exec : String) (f : AttachFailure) : Failure := .attach exec f

/-- The failure of a target that cannot be sent. -/
def badTarget : AttachFailure := .stated "failed to build request: invalid uri character"

def output (exec : String) (status : Nat) (body : Http.Body) : Except Failure Bytes :=
  if status = 101 ∨ status = 200 then .ok body.data
  else
    let text := if body.complete then Text.trim (Text.Utf8.decodeLossy body.data) else ""
    .error (failure exec (.refused (Http.showStatus status) text))

def outputOfOctets (exec : String) (answer : Bytes) : Except Failure Bytes :=
  match Http.readAnswer (answer.length + 1) answer with
  | .ok (status, body) => output exec status body
  | .error d => .error (failure exec (.sending d.message))

end Attach

/-- An exec that was started: its output, and whether the connection was switched over to it.
If it was not, the output came as a plain body, and the exec can be given no input. -/
structure Started where
  output : Bytes
  switched : Bool
  deriving DecidableEq, Repr

def Client.startExec (c : Client) (exec : String) (tty : Bool) : Act Started := do
  let request : Request := .startExec c.version.render exec tty
  match Attach.sentTarget? request.target with
  | none => .fail (Attach.failure exec Attach.badTarget)
  | some _ => do
      let response ← ask c.daemon request
      .ofResult ((Attach.output exec response.status ⟨response.body, true⟩).map
        (⟨·, response.status = 101⟩))

end ComposeSite.Docker
