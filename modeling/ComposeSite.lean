import ComposeSite.Output.Echo
import ComposeSite.Session.Remote
import ComposeSite.Exec.Frame
import ComposeSite.Exec.Attached
import ComposeSite.Forward.Spec
import ComposeSite.Compose.Arguments
import ComposeSite.Shell.RemoteLine
import ComposeSite.Context.Document
import ComposeSite.Context.Validation
import ComposeSite.Docker.Socket
import ComposeSite.Compose.Variables
import ComposeSite.Host.FileTree
import ComposeSite.Http.Status
import ComposeSite.Docker.Daemon
import ComposeSite.Ssh.Access
import ComposeSite.Crypto.Sha1
import ComposeSite.Crypto.Md5
import ComposeSite.Crypto.Hmac
import ComposeSite.Crypto.Aes
import ComposeSite.Crypto.Blowfish
import ComposeSite.Crypto.Curve
import ComposeSite.Encoding.Der
import ComposeSite.Context.Files
import ComposeSite.Compose.Lookup
import ComposeSite.Exec.Run
import ComposeSite.Compose.Project
import ComposeSite.Forward.Run
import ComposeSite.Yaml.Scalar
import ComposeSite.Yaml.Scanner
import ComposeSite.Yaml.Parser
import ComposeSite.Context.Config
import ComposeSite.CommandLine.Basic
import ComposeSite.Script.Grammar
import ComposeSite.Script.Pattern
import ComposeSite.Script.Arithmetic
import ComposeSite.Host.Utility.Printing
import ComposeSite.Host.Utility.Condition
import ComposeSite.Script.State
import ComposeSite.Script.Expand
import ComposeSite.Host.Utility.Table
import ComposeSite.Script.Run
import ComposeSite.Program.Run
import ComposeSite.Program.Files
import ComposeSite.Main
import ComposeSite.Proofs.Exec.Frame
import ComposeSite.Proofs.Exec.Cutting
import ComposeSite.Proofs.Shell.RemoteLine
import ComposeSite.Proofs.Output.LastLine
import ComposeSite.Proofs.Output.History
import ComposeSite.Proofs.Output.Echo
import ComposeSite.Proofs.Session.Remote
import ComposeSite.Proofs.Session.Agreement
import ComposeSite.Proofs.Act.Permit
import ComposeSite.Proofs.Ssh.HostKey
import ComposeSite.Proofs.Program.Conduct
import ComposeSite.Proofs.Program.Locality
import ComposeSite.Proofs.Forward.Passage
import ComposeSite.Proofs.Forward.Spec
import ComposeSite.Proofs.Forward.Relay
import ComposeSite.Proofs.Text.Utf8
import ComposeSite.Proofs.Http.Location
import ComposeSite.Proofs.Json.RoundTrip
import ComposeSite.Proofs.Json.Reading
import ComposeSite.Proofs.Docker.Naming
import ComposeSite.Proofs.Docker.Listing
import ComposeSite.Proofs.Docker.Reach
import ComposeSite.Proofs.Compose.Lookup
import ComposeSite.Proofs.Program.Targets
import ComposeSite.Proofs.Forward.SetUp
import ComposeSite.Proofs.Exec.Attached
import ComposeSite.Proofs.Exec.Run
import ComposeSite.Proofs.Context.Document
import ComposeSite.Proofs.CommandLine.Verbatim
import ComposeSite.Proofs.Program.PassThrough
import ComposeSite.Proofs.Terminal.RawMode
import ComposeSite.Proofs.Exec.Defect
import ComposeSite.Proofs.Exec.Limit
import ComposeSite.Proofs.Session.Local
import ComposeSite.Proofs.Session.Input
import ComposeSite.Proofs.Compose.Secret
import ComposeSite.Proofs.Compose.ProjectDirectory
import ComposeSite.Proofs.Compose.DatabaseUri
import ComposeSite.Proofs.Program.ExitStatus
import ComposeSite.Proofs.Ssh.KnownHosts
import ComposeSite.Proofs.Context.Resolution
import ComposeSite.Proofs.Compose.Arguments
