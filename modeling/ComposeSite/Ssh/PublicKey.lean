/-
# ComposeSite.Ssh.PublicKey -- the keys that hosts and users show

A public key is written as the name of its algorithm and the fields of that
algorithm.  Two keys are the same if all fields are.
-/
import ComposeSite.Ssh.Wire

set_option autoImplicit false

namespace ComposeSite.Ssh

inductive Curve where
  | p256
  | p384
  | p521
  deriving DecidableEq, Repr

namespace Curve

def name : Curve → String
  | p256 => "nistp256"
  | p384 => "nistp384"
  | p521 => "nistp521"

def ofName? (s : String) : Option Curve :=
  [p256, p384, p521].find? fun c => c.name = s

/-- The number of octets of a coordinate. -/
def width : Curve → Nat
  | p256 => 32
  | p384 => 48
  | p521 => 66

end Curve

inductive PublicKey where
  | ed25519 (point : Bytes)
  | rsa (exponent modulus : Bytes)
  | ecdsa (curve : Curve) (point : Bytes)
  | dsa (p q g y : Bytes)
  | skEd25519 (point : Bytes) (application : String)
  | skEcdsa (point : Bytes) (application : String)
  | other (name : String) (data : Bytes)
  deriving DecidableEq, Repr

namespace PublicKey

def algorithm : PublicKey → String
  | ed25519 _ => "ssh-ed25519"
  | rsa .. => "ssh-rsa"
  | ecdsa curve _ => "ecdsa-sha2-" ++ curve.name
  | dsa .. => "ssh-dss"
  | skEd25519 .. => "sk-ssh-ed25519@openssh.com"
  | skEcdsa .. => "sk-ecdsa-sha2-nistp256@openssh.com"
  | other name _ => name

def partsAtSign (cs : List Char) : Option (List Char × List Char) :=
  if cs.contains '@' then some (cs.takeWhile (· ≠ '@'), (cs.dropWhile (· ≠ '@')).drop 1)
  else none

/-- Whether a name may stand for an algorithm of somebody else's: a part on each side of
one at sign. -/
def isExtensionName (s : String) : Bool :=
  let cs := s.toList
  match partsAtSign cs with
  | some (name, domain) =>
      !name.isEmpty && !domain.isEmpty && !domain.contains '@' && cs.length ≤ 64 &&
        cs.all (fun c => c.toNat < 128)
  | none => false

/-- Reads the point of an elliptic key: its first octet says how it is written. -/
def readPoint (curve : Curve) : Wire.Reader Bytes := fun bs => do
  let (point, rest) ← Wire.readString bs
  match point with
  | 4 :: _ => if point.length = 1 + 2 * curve.width then pure (point, rest) else throw .format
  | 2 :: _ | 3 :: _ => throw .format
  | _ => throw .format

def readFields (name : String) : Wire.Reader PublicKey := fun bs => do
  match name with
  | "ssh-ed25519" =>
      let (point, rest) ← Wire.readSized 32 bs
      pure (.ed25519 point, rest)
  | "ssh-rsa" | "rsa-sha2-256" | "rsa-sha2-512" =>
      let (e, rest) ← Wire.readInteger bs
      let (n, rest) ← Wire.readInteger rest
      pure (.rsa e n, rest)
  | "ssh-dss" =>
      let (p, rest) ← Wire.readInteger bs
      let (q, rest) ← Wire.readInteger rest
      let (g, rest) ← Wire.readInteger rest
      let (y, rest) ← Wire.readInteger rest
      pure (.dsa p q g y, rest)
  | "ecdsa-sha2-nistp256" | "ecdsa-sha2-nistp384" | "ecdsa-sha2-nistp521" =>
      let (curveName, rest) ← Wire.readText bs
      match Curve.ofName? curveName with
      | none => throw (.label curveName)
      | some curve =>
          let (point, rest) ← readPoint curve rest
          if "ecdsa-sha2-" ++ curve.name = name then pure (.ecdsa curve point, rest)
          else throw .algorithmUnknown
  | "sk-ssh-ed25519@openssh.com" =>
      let (point, rest) ← Wire.readSized 32 bs
      let (application, rest) ← Wire.readText rest
      pure (.skEd25519 point application, rest)
  | "sk-ecdsa-sha2-nistp256@openssh.com" =>
      let (curveName, rest) ← Wire.readText bs
      if Curve.ofName? curveName = some .p256 then
        let (point, rest) ← readPoint .p256 rest
        let (application, rest) ← Wire.readText rest
        pure (.skEcdsa point application, rest)
      else throw .algorithmUnknown
  | _ =>
      if isExtensionName name then
        let (data, rest) ← Wire.readString bs
        pure (.other name data, rest)
      else throw (.label name)

def read : Wire.Reader PublicKey := fun bs => do
  let (name, rest) ← Wire.readText bs
  readFields name rest

def encode : PublicKey → Bytes
  | ed25519 point => Wire.text "ssh-ed25519" ++ Wire.string point
  | rsa e n => Wire.text "ssh-rsa" ++ Wire.string e ++ Wire.string n
  | ecdsa curve point =>
      Wire.text ("ecdsa-sha2-" ++ curve.name) ++ Wire.text curve.name ++ Wire.string point
  | dsa p q g y =>
      Wire.text "ssh-dss" ++ Wire.string p ++ Wire.string q ++ Wire.string g ++ Wire.string y
  | skEd25519 point application =>
      Wire.text "sk-ssh-ed25519@openssh.com" ++ Wire.string point ++ Wire.text application
  | skEcdsa point application =>
      Wire.text "sk-ecdsa-sha2-nistp256@openssh.com" ++ Wire.text "nistp256" ++
        Wire.string point ++ Wire.text application
  | other name data => Wire.text name ++ Wire.string data

def render (k : PublicKey) (comment : String) : String :=
  let line := s!"{k.algorithm} {Base64.encode k.encode}"
  if comment.isEmpty then line else s!"{line} {comment}"

/-- Reads the base64 form of a key; what follows the key does not matter. -/
def ofBase64 (cs : List Char) : Except KeyFailure PublicKey :=
  match Base64.decode cs with
  | .error f => .error (.base64 f)
  | .ok bs =>
      match read bs with
      | .error d => .error (.inner "SshKey" d)
      | .ok (k, _) => .ok k

end PublicKey

end ComposeSite.Ssh
