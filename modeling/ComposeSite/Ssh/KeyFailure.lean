/-
# ComposeSite.Ssh.KeyFailure -- why a key could not be read

Key files nest formats: a text frame, base64 inside it, and a binary key inside
that.  A failure names the layer that refused.
-/
import ComposeSite.Encoding.Base64
import ComposeSite.IoFailure

set_option autoImplicit false

namespace ComposeSite.Ssh

inductive KeyDefect where
  | length
  | base64 (text : String)
  | label (name : String)
  | character
  | cryptography
  | encrypted
  | format
  | publicKey
  | algorithmUnknown
  | algorithmUnsupported (name : String)
  | trailing (octets : Nat)
  | overflow
  | other (text : String)
  deriving DecidableEq, Repr

def KeyDefect.message : KeyDefect → String
  | length => "length invalid"
  | base64 text => text
  | label name => s!"invalid label: '{name}'"
  | character => "character encoding invalid"
  | cryptography => "cryptographic error"
  | encrypted => "private key is encrypted"
  | format => "format encoding error"
  | publicKey => "public key is incorrect"
  | algorithmUnknown => "unknown or unsupported algorithm"
  | algorithmUnsupported name => s!"unsupported algorithm: {name}"
  | trailing n => s!"unexpected trailing data at end of message ({n} bytes)"
  | overflow => "internal overflow error"
  | other text => text

/-- Why a key, or a file of keys, could not be read. -/
inductive KeyFailure where
  | unreadable
  | encrypted
  | corrupt
  | unsupported (name : String)
  | unknownAlgorithm (id : String)
  | base64 (f : Base64.Failure)
  | padding
  | inner (layer : String) (d : KeyDefect)
  | file (f : IoFailure)
  deriving DecidableEq, Repr

def KeyFailure.message : KeyFailure → String
  | unreadable => "Could not read key"
  | encrypted => "The key is encrypted"
  | corrupt => "The key is corrupt"
  | unsupported name => s!"Unsupported key type {name}"
  | unknownAlgorithm id => s!"Unknown algorithm: {id}"
  | base64 f => s!"Base64 decoding error: {f.message}"
  | padding => "Unpad Error"
  | inner layer d => s!"{layer}: {d.message}"
  | file f => f.message

end ComposeSite.Ssh
