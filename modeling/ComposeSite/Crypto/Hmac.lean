/-
# ComposeSite.Crypto.Hmac -- keyed digests, and keys from passphrases
-/
import ComposeSite.Crypto.Padding

set_option autoImplicit false

namespace ComposeSite.Crypto

def hmac (h : Hash) (key message : Bytes) : Bytes :=
  let short := if key.length > h.blockSize then h.digest key else key
  let full := short ++ List.replicate (h.blockSize - short.length) 0
  h.digest ((full.map (· ^^^ 0x5C)) ++ h.digest ((full.map (· ^^^ 0x36)) ++ message))

/-- A block of derived key: the exclusive or of a chain of keyed digests. -/
def pbkdf2Block (h : Hash) (password salt : Bytes) (rounds number : Nat) : Bytes :=
  let first := hmac h password (salt ++ bigEndianOctets 4 number)
  ((List.range (rounds - 1)).foldl (fun (u, sum) _ =>
    let u := hmac h password u
    (u, xorOctets sum u)) (first, first)).2

/-- A key of some length derived from a password. -/
def pbkdf2 (h : Hash) (password salt : Bytes) (rounds length : Nat) : Bytes :=
  let size := (h.digest []).length
  ((List.range ((length + size - 1) / size)).flatMap fun i =>
    pbkdf2Block h password salt rounds (i + 1)).take length

end ComposeSite.Crypto
