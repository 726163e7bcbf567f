/-
# ComposeSite.Ssh.Wire -- fields of binary keys

Numbers have four octets with the highest first; strings have their length before
them.  A reader takes one field from the front of the octets and gives the rest.
-/
import ComposeSite.Ssh.KeyFailure
import ComposeSite.Text.Utf8

set_option autoImplicit false

namespace ComposeSite.Ssh.Wire

/-- A field and the octets after it. -/
abbrev Reader (α : Type) := Bytes → Except KeyDefect (α × Bytes)

def number (bs : Bytes) : Nat := bs.foldl (fun n b => 256 * n + b.toNat) 0

def uint32 (n : Nat) : Bytes :=
  [UInt8.ofNat (n / 0x1000000), UInt8.ofNat (n / 0x10000), UInt8.ofNat (n / 0x100),
    UInt8.ofNat n]

def readOctets (n : Nat) : Reader Bytes := fun bs =>
  if n ≤ bs.length then .ok (bs.take n, bs.drop n) else .error .length

def readUInt32 : Reader Nat := fun bs => do
  let (octets, rest) ← readOctets 4 bs
  pure (number octets, rest)

/-- The longest string that is read. -/
def longest : Nat := 0xFFFFF

def readLength : Reader Nat := fun bs => do
  let (n, rest) ← readUInt32 bs
  if n ≤ longest then pure (n, rest) else throw .overflow

def readString : Reader Bytes := fun bs => do
  let (n, rest) ← readLength bs
  readOctets n rest

def readText : Reader String := fun bs => do
  let (octets, rest) ← readString bs
  match Text.Utf8.decode? octets with
  | some s => pure (s, rest)
  | none => throw .character

def readSized (n : Nat) : Reader Bytes := fun bs => do
  let (octets, rest) ← readString bs
  if octets.length < n then throw .length
  else if octets.length > n then throw (.trailing (octets.length - n))
  else pure (octets, rest)

/-- Whether the octets of a whole number of either sign are written without superfluous
octets at the front. -/
def isShortest : Bytes → Bool
  | 0 :: b :: _ => b ≥ 0x80
  | 0xFF :: b :: _ => b < 0x80
  | [0] => false
  | _ => true

def readInteger : Reader Bytes := fun bs => do
  let (octets, rest) ← readString bs
  if isShortest octets then pure (octets, rest) else throw .format

def string (bs : Bytes) : Bytes := uint32 bs.length ++ bs

def text (s : String) : Bytes := string (Text.Utf8.encode s)

/-- Puts the octets of a natural number in front of others. -/
def prependOctets (n : Nat) (octets : Bytes) : Bytes :=
  if h : n = 0 then octets else prependOctets (n / 256) (UInt8.ofNat n :: octets)
termination_by n
decreasing_by omega

def natOctets (n : Nat) : Bytes := prependOctets n []

/-- A natural number as the octets of a whole number. -/
def integerOctets (n : Nat) : Bytes :=
  match natOctets n with
  | [] => []
  | b :: bs => if b ≥ 0x80 then 0 :: b :: bs else b :: bs

end ComposeSite.Ssh.Wire
