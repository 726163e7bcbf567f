/-
# ComposeSite.Ssh.Access -- the key that is shown and the key that is accepted

Before a host is dialed the user's key is read, and before the user is named to the
host the host's own key is checked against the known hosts.
-/
import ComposeSite.Context.Validation
import ComposeSite.Ssh.KeyText
import ComposeSite.Ssh.KnownHosts
import ComposeSite.Terminal

set_option autoImplicit false

namespace ComposeSite.Ssh

/-- Reads a key text on behalf of a path. -/
def decodeKey (text : String) (passphrase : Option String) (path : String) :
    Except Failure PrivateKey :=
  (KeyText.decode text passphrase).mapError fun f => .keyParse path f.message

/-- Reads the key at a path, with the passphrase that is typed for it if it is encrypted. -/
def loadKey (files : Host.FileTree) (path : String)
    (passphrase : String → Except IoFailure String := fun _ => .error Terminal.noPrompt) :
    Except Failure PrivateKey := do
  let text ← (files.readText path).mapError (.keyRead path)
  if KeyText.isEncrypted text then
    let typed ← (passphrase path).mapError .dialog
    decodeKey text (some typed) path
  else decodeKey text none path

/-- What follows from what is known about a host's key; only a listed key is accepted. -/
def judge (target : Target) : Except KeyFailure KeyStatus → Except Failure Unit
  | .ok .matching => .ok ()
  | .ok .unknown =>
      .error (.hostKeyUnknown target.hostname target.port.toNat target.user)
  | .ok (.changed line) =>
      .error (.hostKeyChanged target.hostname target.port.toNat target.user line)
  | .error f => .error (.ssh (.knownHosts target.knownHostsPath f))

/-- Checks the key that a host presents against the known hosts. -/
def checkHostKey (files : Host.FileTree) (target : Target) (key : PublicKey) :
    Except Failure Unit :=
  judge target
    (KnownHosts.verify files target.hostname target.port.toNat key target.knownHostsPath)

end ComposeSite.Ssh
