/-
# ComposeSite.Ssh.PrivateKey -- keys as their owners keep them

A key file holds a public key in the open and the private fields either in the open
or sealed by a passphrase.  The private fields must lead to the public key, and
what follows them must be a comment and padding that counts up from one.
-/
import ComposeSite.Crypto.Aes
import ComposeSite.Crypto.Blowfish
import ComposeSite.Crypto.Curve
import ComposeSite.Ssh.PublicKey

set_option autoImplicit false

namespace ComposeSite.Ssh

/-! ## Ciphers and passphrases -/

/-- How the private fields of a key are sealed. -/
inductive Cipher where
  | unencrypted
  | aes (keyOctets : Nat) (counter : Bool)
  | other (name : String) (block : Nat) (tag : Bool)
  deriving DecidableEq, Repr

namespace Cipher

def ofName? : String → Option Cipher
  | "none" => some unencrypted
  | "aes128-cbc" => some (aes 16 false)
  | "aes192-cbc" => some (aes 24 false)
  | "aes256-cbc" => some (aes 32 false)
  | "aes128-ctr" => some (aes 16 true)
  | "aes192-ctr" => some (aes 24 true)
  | "aes256-ctr" => some (aes 32 true)
  | "aes128-gcm@openssh.com" => some (other "aes128-gcm@openssh.com" 16 true)
  | "aes256-gcm@openssh.com" => some (other "aes256-gcm@openssh.com" 16 true)
  | "chacha20-poly1305@openssh.com" => some (other "chacha20-poly1305@openssh.com" 8 true)
  | "3des-cbc" => some (other "3des-cbc" 8 false)
  | _ => none

def blockSize : Cipher → Nat
  | unencrypted => 8
  | aes .. => 16
  | other _ block _ => block

/-- Whether a check value follows the sealed fields. -/
def hasTag : Cipher → Bool
  | other _ _ tag => tag
  | _ => false

/-- Opens sealed fields, if the cipher is one that can be opened here. -/
def unseal? (c : Cipher) (material data : Bytes) : Option Bytes :=
  match c with
  | aes n counter =>
      let key := material.take n
      let iv := (material.drop n).take 16
      some (if counter then Crypto.Aes.applyCounter key iv data
        else Crypto.Aes.decryptChained key iv data)
  | _ => none

/-- How many octets the key and the start value of a cipher take. -/
def materialSize : Cipher → Nat
  | aes n _ => n + 16
  | _ => 0

end Cipher

/-- How a passphrase becomes the key of a cipher. -/
inductive Derivation where
  | none
  | rounds (salt : Bytes) (count : Nat)
  deriving DecidableEq, Repr

def Derivation.read : Wire.Reader Derivation := fun bs => do
  let (name, rest) ← Wire.readText bs
  match name with
  | "none" =>
      let (n, rest) ← Wire.readLength rest
      if n = 0 then pure (.none, rest) else throw .cryptography
  | "bcrypt" =>
      let (options, rest) ← Wire.readString rest
      let (salt, inner) ← Wire.readString options
      let (count, inner) ← Wire.readUInt32 inner
      if inner.isEmpty then pure (.rounds salt count, rest)
      else throw (.trailing inner.length)
  | _ => throw (.label name)

def Derivation.derive (d : Derivation) (c : Cipher) (passphrase : Bytes) :
    Except KeyDefect Bytes :=
  match d with
  | none => .error .cryptography
  | rounds salt count =>
      if passphrase.isEmpty ∨ salt.isEmpty ∨ count = 0 ∨ c.materialSize = 0 then
        .error .cryptography
      else .ok (Crypto.Blowfish.derive passphrase salt count c.materialSize)

/-! ## Private fields -/

/-- Reads private fields and gives the public key that they lead to. -/
def readPrivateFields : Wire.Reader PublicKey := fun bs => do
  let (name, rest) ← Wire.readText bs
  match name with
  | "ssh-ed25519" =>
      let (point, rest) ← Wire.readSized 32 rest
      let (pair, rest) ← Wire.readSized 64 rest
      let stated := pair.drop 32
      if Crypto.TwistedCurve.publicKey (pair.take 32) = stated ∧ stated = point then
        pure (.ed25519 point, rest)
      else throw .cryptography
  | "ssh-rsa" | "rsa-sha2-256" | "rsa-sha2-512" =>
      let (n, rest) ← Wire.readInteger rest
      let (e, rest) ← Wire.readInteger rest
      let (_, rest) ← Wire.readInteger rest
      let (_, rest) ← Wire.readInteger rest
      let (_, rest) ← Wire.readInteger rest
      let (_, rest) ← Wire.readInteger rest
      pure (.rsa e n, rest)
  | "ssh-dss" =>
      let (k, rest) ← PublicKey.readFields name rest
      let (_, rest) ← Wire.readInteger rest
      pure (k, rest)
  | "sk-ssh-ed25519@openssh.com" | "sk-ecdsa-sha2-nistp256@openssh.com" =>
      let (k, rest) ← PublicKey.readFields name rest
      let (_, rest) ← Wire.readOctets 1 rest
      let (_, rest) ← Wire.readString rest
      let (_, rest) ← Wire.readString rest
      pure (k, rest)
  | _ =>
      let (k, rest) ← PublicKey.readFields name rest
      let (secret, rest) ← Wire.readString rest
      match k with
      | .ecdsa curve _ =>
          let size := curve.width
          if secret.length < size then throw .length
          else if secret.length = size + 1 ∧ secret.head? ≠ some 0 then throw .format
          else if secret.length > size + 1 then throw (.trailing (secret.length - size))
          else pure (k, rest)
      | _ => pure (k, rest)

/-- A key file: the public key, the comment of an open one, and the sealed fields of one that
needs a passphrase. -/
structure PrivateKey where
  publicKey : PublicKey
  comment : String := ""
  sealed? : Option (Cipher × Derivation × Bytes) := none
  deriving DecidableEq, Repr

namespace PrivateKey

def isEncrypted (k : PrivateKey) : Bool := k.sealed?.isSome

/-- A key and its comment on one line. -/
def render (k : PrivateKey) : String := k.publicKey.render k.comment

def countsUp (bs : Bytes) : Bool :=
  bs == (List.range bs.length).map fun i => UInt8.ofNat (i + 1)

/-- Reads the open private fields of a key with a known public key. -/
def readOpened (publicKey : PublicKey) (blockSize : Nat) (bs : Bytes) :
    Except KeyDefect PrivateKey := do
  if bs.length % blockSize ≠ 0 then throw .length
  let (first, rest) ← Wire.readUInt32 bs
  let (second, rest) ← Wire.readUInt32 rest
  if first ≠ second then throw .cryptography
  let (k, rest) ← readPrivateFields rest
  if k ≠ publicKey then throw .publicKey
  let (comment, rest) ← Wire.readText rest
  if rest.length ≥ blockSize then throw .length
  if !countsUp rest then throw .format
  pure { publicKey, comment }

/-- What a key file starts with. -/
def magic : Bytes := Text.Utf8.encode "openssh-key-v1" ++ [0]

def read (bs : Bytes) : Except KeyDefect PrivateKey := do
  let (start, rest) ← Wire.readOctets magic.length bs
  if start ≠ magic then throw .format
  let (cipherName, rest) ← Wire.readText rest
  match Cipher.ofName? cipherName with
  | none => throw (.label cipherName)
  | some cipher =>
      let (derivation, rest) ← Derivation.read rest
      let (count, rest) ← Wire.readLength rest
      if count ≠ 1 then throw .length
      let (publicOctets, rest) ← Wire.readString rest
      let (publicKey, left) ← PublicKey.read publicOctets
      if !left.isEmpty then throw (.trailing left.length)
      match cipher with
      | .unencrypted =>
          if derivation ≠ .none then throw .cryptography
          let (fields, rest) ← Wire.readString rest
          let k ← readOpened publicKey cipher.blockSize fields
          if rest.isEmpty then pure k else throw (.trailing rest.length)
      | _ =>
          let (fields, rest) ← Wire.readString rest
          if fields.length % cipher.blockSize ≠ 0 then throw .cryptography
          let (_, rest) ← Wire.readOctets (if cipher.hasTag then 16 else 0) rest
          if rest.isEmpty then
            pure { publicKey, sealed? := some (cipher, derivation, fields) }
          else throw (.trailing rest.length)

def unlock (k : PrivateKey) (passphrase : String) : Except KeyDefect PrivateKey :=
  match k.sealed? with
  | none => .ok k
  | some (cipher, derivation, fields) => do
      let material ← derivation.derive cipher (Text.Utf8.encode passphrase)
      match cipher.unseal? material fields with
      | some opened => readOpened k.publicKey cipher.blockSize opened
      | none => throw .cryptography

end PrivateKey

end ComposeSite.Ssh
