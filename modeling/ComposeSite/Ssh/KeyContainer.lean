/-
# ComposeSite.Ssh.KeyContainer -- keys in tagged containers

Besides the format of their own, SSH keys come as tagged values: a bare RSA key, a
key together with the name of its algorithm, and the latter sealed by a passphrase.
-/
import ComposeSite.Crypto.Hmac
import ComposeSite.Crypto.Md5
import ComposeSite.Crypto.Sha1
import ComposeSite.Encoding.Der
import ComposeSite.Ssh.PrivateKey

set_option autoImplicit false

namespace ComposeSite.Ssh.KeyContainer

def fault {α : Type} (layer text : String) : Except KeyFailure α :=
  .error (.inner layer (.other text))

/-- The failure of octets that are not the expected values. -/
def notDer {α : Type} (layer context : String) : Except Der.Failure α → Except KeyFailure α
  | .ok a => .ok a
  | .error f => fault layer (context ++ f.message)

/-! ## Bare keys -/

structure Rsa where
  modulus : Nat
  exponent : Nat
  secret : Nat
  prime1 : Nat
  prime2 : Nat

def readRsa (bs : Bytes) : Except Der.Failure (Nat × Rsa) := do
  let body ← Der.readWhole .sequence bs
  let (version, rest) ← Der.readNatural body
  let (numbers, rest) ← Der.readNaturals 8 rest
  if version = 0 ∧ !rest.isEmpty then
    throw (.trailing (body.length - rest.length) rest.length)
  match numbers with
  | n :: e :: d :: p :: q :: _ => pure (version, ⟨n, e, d, p, q⟩)
  | _ => throw (.length Der.Tag.sequence.name)

/-- Whether the numbers of an RSA key fit together. -/
def Rsa.consistent (k : Rsa) : Bool :=
  k.exponent % 2 = 1 && k.exponent > 1 && k.prime1 > 1 && k.prime2 > 1 &&
    k.prime1 * k.prime2 = k.modulus &&
    k.exponent * k.secret % (k.prime1 - 1) = 1 && k.exponent * k.secret % (k.prime2 - 1) = 1

def Rsa.publicKey (k : Rsa) : PublicKey :=
  .rsa (Wire.integerOctets k.exponent) (Wire.integerOctets k.modulus)

def readBareRsa (bs : Bytes) : Except KeyFailure PrivateKey := do
  let (version, k) ← notDer "Pkcs1" "PKCS#1 ASN.1 error: " (readRsa bs)
  if version ≠ 0 then fault "Pkcs1" "PKCS#1 version error"
  else if k.consistent then pure { publicKey := k.publicKey }
  else fault "Pkcs1" "PKCS#1 cryptographic key data malformed"

/-- Opens a bare RSA key sealed by a digest of the passphrase and the start value. -/
def unlockBareRsa (iv bs : Bytes) (passphrase : Option String) : Except KeyFailure PrivateKey :=
  match passphrase with
  | none => .error .encrypted
  | some text =>
      let key := Crypto.md5Key text iv
      if bs.length % 16 ≠ 0 then .error .padding
      else
        match Crypto.Aes.unpad? (Crypto.Aes.decryptChained key iv bs) with
        | some opened => readBareRsa opened
        | none => .error .padding

/-! ## Keys with the name of their algorithm -/

/-- The name of a curve's coordinates in the container. -/
def curveOf? : List Nat → Option (Curve × Crypto.CubicCurve)
  | [1, 2, 840, 10045, 3, 1, 7] => some (.p256, .p256)
  | [1, 3, 132, 0, 34] => some (.p384, .p384)
  | [1, 3, 132, 0, 35] => some (.p521, .p521)
  | _ => none

def writePoint (curve : Curve) : Crypto.CubicCurve.Point → Bytes
  | none => [0]
  | some (x, y) =>
      4 :: Crypto.bigEndianOctets curve.width x ++ Crypto.bigEndianOctets curve.width y

def readCurveSecret (bs : Bytes) : Except Der.Failure Nat := do
  let body ← Der.readWhole .sequence bs
  let (_, rest) ← Der.readNatural body
  let (secret, _) ← Der.read .octetString rest
  pure (Crypto.ofBigEndian secret)

def dotted (id : List Nat) : String := ".".intercalate (id.map toString)

def readNamed (algorithm : List Nat) (parameters secret : Bytes) :
    Except KeyFailure PrivateKey := do
  match algorithm with
  | [1, 3, 101, 112] =>
      let seed ← notDer "Pkcs8" "PKCS#8 ASN.1 error: " (Der.readWhole .octetString secret)
      if seed.length = 32 then
        pure { publicKey := .ed25519 (Crypto.TwistedCurve.publicKey seed) }
      else fault "Pkcs8" "PKCS#8 cryptographic key data malformed"
  | [1, 2, 840, 113549, 1, 1, 1] =>
      let (_, k) ← notDer "Pkcs1" "" (readRsa secret)
      if k.consistent then pure { publicKey := k.publicKey }
      else fault "Rsa" "invalid modulus"
  | [1, 2, 840, 10045, 2, 1] =>
      let (curveId, _) ← notDer "Spki" "" (Der.readIdentifier parameters)
      match curveOf? curveId with
      | none => .error (.unknownAlgorithm (dotted curveId))
      | some (curve, points) =>
          let scalar ← notDer "Sec1" "" (readCurveSecret secret)
          pure { publicKey := .ecdsa curve (writePoint curve (points.publicPoint scalar)) }
  | other => .error (.unknownAlgorithm (dotted other))

/-- The parts of a container: the algorithm, its parameters and the private half. -/
def readParts (bs : Bytes) : Except Der.Failure (List Nat × Bytes × Bytes) := do
  let body ← Der.readWhole .sequence bs
  let (version, rest) ← Der.readNatural body
  if version > 1 then throw (.value Der.Tag.integer.name)
  let (about, rest) ← Der.read .sequence rest
  let (algorithm, parameters) ← Der.readIdentifier about
  let (secret, _) ← Der.read .octetString rest
  pure (algorithm, parameters, secret)

structure Seal where
  salt : Bytes
  rounds : Nat
  hash : Crypto.Hash
  keyOctets : Nat
  iv : Bytes

def hashOf? : List Nat → Option Crypto.Hash
  | [1, 2, 840, 113549, 2, 7] => some Crypto.sha1
  | [1, 2, 840, 113549, 2, 9] => some Crypto.sha256
  | [1, 2, 840, 113549, 2, 11] => some Crypto.sha512
  | _ => none

def keyOctetsOf? : List Nat → Option Nat
  | [2, 16, 840, 1, 101, 3, 4, 1, 2] => some 16
  | [2, 16, 840, 1, 101, 3, 4, 1, 42] => some 32
  | _ => none

def readDigestName (bs : Bytes) : Except Der.Failure Crypto.Hash := do
  if bs.isEmpty then return Crypto.sha1
  let (about, _) ← Der.read .sequence bs
  let (id, _) ← Der.readIdentifier about
  match hashOf? id with
  | some h => pure h
  | none => throw (.value Der.Tag.objectIdentifier.name)

/-- Reads the digest of a derivation; none is the oldest one. -/
def readHash (bs : Bytes) : Except Der.Failure Crypto.Hash := do
  if bs.isEmpty then return Crypto.sha1
  match bs with
  | 2 :: _ =>
      let (_, rest) ← Der.readNatural bs
      readDigestName rest
  | _ => readDigestName bs

def readSeal (bs : Bytes) : Except Der.Failure (Seal × Bytes) := do
  let body ← Der.readWhole .sequence bs
  let (about, rest) ← (Der.read .sequence body).mapError fun f =>
    .placed f (Der.headerSize body)
  let (data, _) ← Der.read .octetString rest
  let (scheme, parameters) ← Der.readIdentifier about
  if scheme ≠ [1, 2, 840, 113549, 1, 5, 13] then
    throw (.value Der.Tag.objectIdentifier.name)
  let inner ← Der.readWhole .sequence parameters
  let (derivation, rest) ← Der.read .sequence inner
  let (cipher, _) ← Der.read .sequence rest
  let (_, options) ← Der.readIdentifier derivation
  let options ← Der.readWhole .sequence options
  let (salt, rest) ← Der.read .octetString options
  let (rounds, rest) ← Der.readNatural rest
  let hash ← readHash rest
  let (cipherId, iv) ← Der.readIdentifier cipher
  let (iv, _) ← Der.read .octetString iv
  match keyOctetsOf? cipherId with
  | some n => pure (⟨salt, rounds, hash, n, iv⟩, data)
  | none => throw (.value Der.Tag.objectIdentifier.name)

def Seal.unseal? (s : Seal) (passphrase : String) (data : Bytes) : Option Bytes :=
  let key := Crypto.pbkdf2 s.hash (Text.Utf8.encode passphrase) s.salt s.rounds s.keyOctets
  if data.length % 16 ≠ 0 then none
  else Crypto.Aes.unpad? (Crypto.Aes.decryptChained key s.iv data)

/-- Reads a container; with a passphrase it must be a sealed one, and without it an open
one. -/
def readContainer (bs : Bytes) (passphrase : Option String) : Except KeyFailure PrivateKey := do
  let _ ← notDer "Der" "" (do
    let (_, rest) ← match Der.readItem bs with
      | .error (.incomplete expected actual _) => .error (.incomplete expected actual 0)
      | r => r
    if rest.isEmpty then pure ()
    else throw (Der.Failure.trailing (bs.length - rest.length) rest.length))
  let opened ← match passphrase with
    | none => pure bs
    | some text => do
        let (s, data) ← notDer "Der" "" (readSeal bs)
        match s.unseal? text data with
        | some opened => pure opened
        | none => fault "Pkcs8" "PKCS#5 decryption failed"
  let (algorithm, parameters, secret) ← notDer "Der" "" (readParts opened)
  readNamed algorithm parameters secret

end ComposeSite.Ssh.KeyContainer
