/-
# ComposeSite.Failure -- what can go wrong

Every failure is a cause with the data that its wording needs; the wording is in
one place (`Failure.message`).
-/
import ComposeSite.Context.Basic
import ComposeSite.Json.Fault
import ComposeSite.Ssh.KeyFailure
import ComposeSite.Text.Quoted
import ComposeSite.Text.Utf8

set_option autoImplicit false

namespace ComposeSite

/-- What is wrong with the configuration or with what is asked of it. -/
inductive ConfigFailure where
  | missingFile (path : String)
  | malformed (path text : String)
  | noCurrentContext
  | unknownContext (name : String)
  | noDockerSocket (context : String)
  | incomplete (context : String) (settings : List Context.Field)
  | unknownComposeCommand (word : String)
  | noComposeFile (directory : String)
  | noDaemon (tried : List String)
  | noForwards
  | stated (text : String)
  deriving DecidableEq, Repr

def ConfigFailure.message : ConfigFailure → String
  | missingFile path => s!"Config file not found: {path}"
  | malformed path text => s!"Invalid config {path}: {text}"
  | noCurrentContext => "No current context set (current-context is empty)"
  | unknownContext name => s!"Unknown context '{name}'"
  | noDockerSocket context => s!"Local context '{context}' has no docker socket configured"
  | incomplete context settings =>
      let names := ", ".intercalate (settings.map Context.Field.key)
      s!"Remote context '{context}' is missing: {names}"
  | unknownComposeCommand word => s!"unknown docker compose command: {word}"
  | noComposeFile directory => s!"No compose file found in {directory}"
  | noDaemon tried =>
      let names := ", ".intercalate tried
      s!"Unable to find a running docker daemon; tried {names}"
  | noForwards => "no port forwards given"
  | stated text => text

/-- Why the SSH transport gave up. -/
inductive TransportFailure where
  | io (cause : IoFailure)
  | channelRefused (reason : String)
  | disconnected
  | sending
  | stated (text : String)
  deriving DecidableEq, Repr

def TransportFailure.message : TransportFailure → String
  | io cause => cause.message
  | channelRefused reason => s!"Failed to open channel ({reason})"
  | disconnected => "Disconnected"
  | sending => "Channel send error"
  | stated text => text

/-- What an SSH connection could not do. -/
inductive SshFailure where
  | dialing (address : String) (cause : TransportFailure)
  | keyRejected (address key user : String)
  | knownHosts (path : String) (cause : Ssh.KeyFailure)
  | session (target : String) (cause : TransportFailure)
  | direct (host : String) (port : UInt16) (target : String) (cause : TransportFailure)
  | directSocket (path target : String) (cause : TransportFailure)
  | pty (cause : TransportFailure)
  | command (cause : TransportFailure)
  | subsystem (cause : TransportFailure)
  | fileTransfer (cause : TransportFailure)
  | remoteOpen (path : String) (cause : TransportFailure)
  | remoteRead (path : String) (cause : TransportFailure)
  | stated (text : String)
  deriving DecidableEq, Repr

def SshFailure.message : SshFailure → String
  | dialing address cause =>
      s!"error dialing SSH at {address}: SSH protocol error: {cause.message}"
  | keyRejected address key user => s!"{address} rejected key {key} for user {user}"
  | knownHosts path cause => s!"Failed to read known_hosts {path}: {cause.message}"
  | session target cause => s!"Failed to open session on {target}: {cause.message}"
  | direct host port target cause =>
      s!"Failed to dial {host}:{port} via {target}: {cause.message}"
  | directSocket path target cause =>
      s!"Failed to dial unix:{path} via {target}: {cause.message}"
  | pty cause => s!"Failed to request PTY: {cause.message}"
  | command cause => s!"Failed to execute command: {cause.message}"
  | subsystem cause => s!"Failed to request SFTP subsystem: {cause.message}"
  | fileTransfer cause => s!"Failed to initialize SFTP: {cause.message}"
  | remoteOpen path cause => s!"Failed to open remote file {path}: {cause.message}"
  | remoteRead path cause => s!"Failed to read remote file {path}: {cause.message}"
  | stated text => text

inductive DockerOperation where
  | connect
  | negotiateVersion
  | listContainers
  | inspectContainer
  | createExec
  | inspectExec
  deriving DecidableEq, Repr

def DockerOperation.name : DockerOperation → String
  | connect => "connect"
  | negotiateVersion => "negotiate version"
  | listContainers => "list containers"
  | inspectContainer => "inspect container"
  | createExec => "create exec"
  | inspectExec => "inspect exec"

/-- Why a daemon's answer is of no use. -/
inductive DockerFailure where
  | noSocket (path : String)
  | unreachable
  | severed
  | status (code : Nat) (text : String)
  | version
  | data (fault : Json.Fault)
  | json (fault : Json.Fault)
  | stated (text : String)
  deriving DecidableEq, Repr

def DockerFailure.message : DockerFailure → String
  | noSocket path => s!"Socket not found: {path}"
  | unreachable => "client error (Connect)"
  | severed => "client error (SendRequest)"
  | status code text => s!"Docker responded with status code {code}: {text}"
  | version => "Failed to parse API version"
  | data fault => s!"Failed to deserialize JSON: {fault.message}"
  | json fault => fault.message
  | stated text => text

/-- Why an exec could not be attached or followed to its end. `endless` stands for an exec that
never comes to an end: nobody is told of it, since the program does not end either
(`Failure.isEndless`). -/
inductive AttachFailure where
  | connecting (path : String) (cause : IoFailure)
  | sending (text : String)
  | refused (status : String) (body : String)
  | noExitCode
  | endless
  | stated (text : String)
  deriving DecidableEq, Repr

def AttachFailure.message : AttachFailure → String
  | connecting path cause => s!"failed to connect to {path}: {cause.message}"
  | sending text => s!"failed to send start request: {text}"
  | refused status body => s!"daemon returned {status}: {body}"
  | noExitCode => "exec stream ended but the process has no exit code"
  | endless => ""
  | stated text => text

inductive FrameFailure where
  | truncatedHeader (got : Nat)
  | unknownStream (kind : Nat)
  | truncatedPayload (expected got : Nat)
  | stated (text : String)
  deriving DecidableEq, Repr

def FrameFailure.message : FrameFailure → String
  | truncatedHeader got => s!"truncated header: got {got} of 8 bytes"
  | unknownStream kind => s!"unknown stream type {kind}"
  | truncatedPayload expected got =>
      s!"truncated frame: expected {expected} bytes, got {got}"
  | stated text => text

inductive SpecFailure where
  | shape
  | localPort (text : String)
  | remotePort (text : String)
  | noService
  | stated (text : String)
  deriving DecidableEq, Repr

def SpecFailure.message : SpecFailure → String
  | shape => "expected format LOCAL-PORT:SERVICE:REMOTE-PORT"
  | localPort text => s!"invalid local port '{text}': must be an integer"
  | remotePort text => s!"invalid remote port '{text}': must be an integer"
  | noService => "service name is empty"
  | stated text => text

inductive ExitStatus where
  | code (n : Nat)
  | signal (number : Nat)
  deriving DecidableEq, Repr

namespace ExitStatus

/-- The names of signals by number, from one on. -/
def signalNames : List String :=
  ["SIGHUP", "SIGINT", "SIGQUIT", "SIGILL", "SIGTRAP", "SIGABRT", "SIGBUS", "SIGFPE",
   "SIGKILL", "SIGUSR1", "SIGSEGV", "SIGUSR2", "SIGPIPE", "SIGALRM", "SIGTERM", "SIGSTKFLT",
   "SIGCHLD", "SIGCONT", "SIGSTOP", "SIGTSTP", "SIGTTIN", "SIGTTOU", "SIGURG", "SIGXCPU",
   "SIGXFSZ", "SIGVTALRM", "SIGPROF", "SIGWINCH", "SIGIO", "SIGPWR", "SIGSYS"]

def message : ExitStatus → String
  | code n => s!"exit status: {n}"
  | signal n =>
      match signalNames[n - 1]? with
      | some name => s!"signal: {n} ({name})"
      | none => s!"signal: {n}"

def success : ExitStatus → Bool
  | code 0 => true
  | _ => false

end ExitStatus

/-- Why a command failed without an exit code of its own. -/
inductive CommandFailure where
  | notStarted (cause : IoFailure)
  | ended (status : ExitStatus)
  | noStatus
  | stated (text : String)
  deriving DecidableEq, Repr

def CommandFailure.message : CommandFailure → String
  | notStarted cause => s!"error starting command: {cause.message}"
  | ended status => status.message
  | noStatus => "session closed without an exit status"
  | stated text => text

inductive Failure where
  | config (cause : ConfigFailure)
  | ssh (cause : SshFailure)
  | keyRead (path : String) (cause : IoFailure)
  | keyParse (path : String) (text : String)
  | hostKeyUnknown (host : String) (port : Nat) (user : String)
  | hostKeyChanged (host : String) (port : Nat) (user : String) (line : Nat)
  | dialTimeout (address : String) (seconds : Nat)
  | protocol (cause : TransportFailure)
  | containerNotFound (service project : String)
  | networkNotFound (network container : String)
  | variableNotFound (name container : String)
  | docker (operation : DockerOperation) (target : String) (cause : DockerFailure)
  | attach (exec : String) (cause : AttachFailure)
  | frame (cause : FrameFailure)
  | forwardSpec (text : String) (cause : SpecFailure)
  | portInUse (port : Nat) (cause : IoFailure)
  | fileRead (path : String) (cause : IoFailure)
  | connect (address : String) (cause : IoFailure)
  | socketBind (path : String) (cause : IoFailure)
  | command (line : String) (cause : CommandFailure)
  | remoteExit (line : String) (code : Nat)
  | io (cause : IoFailure)
  | json (fault : Json.Fault)
  | dialog (cause : IoFailure)
  | daemon (message : Bytes)
  | other (text : String)
  deriving DecidableEq, Repr

namespace Failure

/-- Whether the program does not end. -/
def isEndless : Failure → Bool
  | attach _ .endless => true
  | _ => false

def tryByHand (host : String) (port : Nat) (user : String) : String :=
  s!"Try running `ssh -p {port} -t {user}@{host}` and trying again"

def message : Failure → String
  | config cause => s!"Configuration error: {cause.message}"
  | ssh cause => s!"SSH connection error: {cause.message}"
  | keyRead path cause => s!"Error reading SSH key {path}: {cause.message}"
  | keyParse path text => s!"Error parsing SSH key {path}: {text}"
  | hostKeyUnknown host port user =>
      s!"The host key for {host}:{port} is not known.\n" ++
      "Your known_hosts file doesn't have an entry for this host.\n\n" ++
      tryByHand host port user
  | hostKeyChanged host port user line =>
      s!"The host key for {host}:{port} does not match the expected key " ++
      s!"(known_hosts line {line}).\n" ++
      "The host's key may have changed, or there could be a security issue.\n" ++
      "Verify the new key with your host administrator. If the change is legitimate,\n" ++
      "remove the old key from known_hosts and add the new one.\n\n" ++
      tryByHand host port user
  | dialTimeout address seconds => s!"Timed out after {seconds}s dialing SSH at {address}"
  | protocol cause => s!"SSH protocol error: {cause.message}"
  | containerNotFound service project =>
      s!"No container found for service {service} in project {project}"
  | networkNotFound network container =>
      let network := Text.quoted network
      let container := Text.quoted container
      s!"Network {network} not found in container {container}"
  | variableNotFound name container =>
      let name := Text.quoted name
      s!"Environment variable {name} not found in container {container}"
  | docker operation target cause =>
      s!"Docker {operation.name} failed for {target}: {cause.message}"
  | attach _ .endless => ""
  | attach exec cause => s!"Failed to attach to exec {exec}: {cause.message}"
  | frame cause => s!"Malformed exec stream: {cause.message}"
  | forwardSpec text cause => s!"Invalid port forwarding spec '{text}': {cause.message}"
  | portInUse port cause => s!"Local port {port} appears to be in use: {cause.message}"
  | fileRead path cause => s!"Error reading {path}: {cause.message}"
  | connect address cause => s!"Failed to connect to {address}: {cause.message}"
  | socketBind path cause => s!"Failed to listen on socket {path}: {cause.message}"
  | command line cause => s!"Command {line} failed: {cause.message}"
  | remoteExit line code =>
      let shown := Text.quoted line
      s!"Remote command {shown} exited with status {code}"
  | io cause => s!"IO error: {cause.message}"
  | json fault => s!"JSON error: {fault.message}"
  | dialog cause => s!"Dialog error: IO error: {cause.message}"
  | daemon message => s!"error from daemon in stream: {Text.Utf8.decodeLossy message}"
  | other text => text

end Failure

end ComposeSite
