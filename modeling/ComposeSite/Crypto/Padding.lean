/-
# ComposeSite.Crypto.Padding -- messages in whole blocks

A message is followed by one octet with its highest bit set, by zeros, and by its
length in bits, so that whole blocks result.
-/
import ComposeSite.Bytes

set_option autoImplicit false

namespace ComposeSite.Crypto

/-- The octets of a number, highest first. -/
def bigEndianOctets (width n : Nat) : Bytes :=
  (List.range width).reverse.map fun i => UInt8.ofNat (n >>> (8 * i))

def littleEndianOctets (width n : Nat) : Bytes :=
  (List.range width).map fun i => UInt8.ofNat (n >>> (8 * i))

/-- The number that octets spell, highest first. -/
def ofBigEndian (bs : Bytes) : Nat := bs.foldl (fun n b => 256 * n + b.toNat) 0

def ofLittleEndian (bs : Bytes) : Nat := bs.foldr (fun b n => 256 * n + b.toNat) 0

/-- A message with its padding; `lengthOctets` is how its length is written. -/
def padded (block : Nat) (lengthOctets : Nat → Bytes) (message : Bytes) : Bytes :=
  let length := lengthOctets (8 * message.length)
  let used := message.length + 1 + length.length
  message ++ 0x80 :: List.replicate ((block - used % block) % block) 0 ++ length

/-- Cuts into pieces of a size; the last one may be shorter. -/
def pieces {α : Type} (size : Nat) (xs : List α) : List (List α) :=
  go xs.length xs
where
  go : Nat → List α → List (List α)
    | 0, _ => []
    | fuel + 1, xs =>
        if xs.isEmpty then [] else xs.take size :: go fuel (xs.drop size)

/-- A hash function: how long its blocks are, and the digest of a message. -/
structure Hash where
  blockSize : Nat
  digest : Bytes → Bytes

def xorOctets (a b : Bytes) : Bytes := List.zipWith (· ^^^ ·) a b

end ComposeSite.Crypto
