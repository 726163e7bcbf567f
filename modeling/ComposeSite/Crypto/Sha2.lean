/-
# ComposeSite.Crypto.Sha2 -- the hash functions SHA-256 and SHA-512

Both follow one scheme with words of different widths and different rotations.
-/
import ComposeSite.Crypto.Padding
import ComposeSite.Crypto.Roots

set_option autoImplicit false

namespace ComposeSite.Crypto.Sha2

/-- A member of the family: the width of its words in octets, its word functions and its
constants. -/
structure Variant (W : Type) where
  octets : Nat
  ofNat : Nat → W
  toNat : W → Nat
  scheduleLow : W → W
  scheduleHigh : W → W
  sumLow : W → W
  sumHigh : W → W
  initial : Array W
  constants : Array W

structure Working (W : Type) where
  a : W
  b : W
  c : W
  d : W
  e : W
  f : W
  g : W
  h : W

section

variable {W : Type} [Inhabited W] [Add W] [XorOp W] [AndOp W] [Complement W]

/-- The message words of a block, extended to one for each round. -/
@[specialize]
def schedule (v : Variant W) (block : Array W) : Array W :=
  (List.range (v.constants.size - 16)).foldl (fun w i =>
    w.push (w[i]! + v.scheduleLow w[i + 1]! + w[i + 9]! + v.scheduleHigh w[i + 14]!)) block

@[specialize]
def round (v : Variant W) (s : Working W) (k w : W) : Working W :=
  let choice := (s.e &&& s.f) ^^^ (~~~s.e &&& s.g)
  let majority := (s.a &&& s.b) ^^^ (s.a &&& s.c) ^^^ (s.b &&& s.c)
  let t := s.h + v.sumHigh s.e + choice + k + w
  { a := t + (v.sumLow s.a + majority), b := s.a, c := s.b, d := s.c, e := s.d + t,
    f := s.e, g := s.f, h := s.g }

@[specialize]
def compress (v : Variant W) (state : Array W) (block : Bytes) : Array W :=
  let words := ((pieces v.octets block).map fun bs => v.ofNat (ofBigEndian bs)).toArray
  let w := schedule v words
  let s := (List.range v.constants.size).foldl (fun s i => round v s v.constants[i]! w[i]!)
    { a := state[0]!, b := state[1]!, c := state[2]!, d := state[3]!, e := state[4]!,
      f := state[5]!, g := state[6]!, h := state[7]! }
  #[state[0]! + s.a, state[1]! + s.b, state[2]! + s.c, state[3]! + s.d, state[4]! + s.e,
    state[5]! + s.f, state[6]! + s.g, state[7]! + s.h]

@[specialize]
def digest (v : Variant W) (message : Bytes) : Bytes :=
  let block := 16 * v.octets
  let blocks := pieces block (padded block (bigEndianOctets (2 * v.octets)) message)
  (blocks.foldl (compress v) v.initial).toList.flatMap fun w =>
    bigEndianOctets v.octets (v.toNat w)

end

def rotate32 (n : UInt32) (x : UInt32) : UInt32 := (x >>> n) ||| (x <<< (32 - n))

def rotate64 (n : UInt64) (x : UInt64) : UInt64 := (x >>> n) ||| (x <<< (64 - n))

def words32 : Variant UInt32 where
  octets := 4
  ofNat := UInt32.ofNat
  toNat := UInt32.toNat
  scheduleLow x := rotate32 7 x ^^^ rotate32 18 x ^^^ (x >>> 3)
  scheduleHigh x := rotate32 17 x ^^^ rotate32 19 x ^^^ (x >>> 10)
  sumLow x := rotate32 2 x ^^^ rotate32 13 x ^^^ rotate32 22 x
  sumHigh x := rotate32 6 x ^^^ rotate32 11 x ^^^ rotate32 25 x
  initial := ((primes.take 8).map fun p => UInt32.ofNat (rootFraction 2 32 p)).toArray
  constants := ((primes.take 64).map fun p => UInt32.ofNat (rootFraction 3 32 p)).toArray

def words64 : Variant UInt64 where
  octets := 8
  ofNat := UInt64.ofNat
  toNat := UInt64.toNat
  scheduleLow x := rotate64 1 x ^^^ rotate64 8 x ^^^ (x >>> 7)
  scheduleHigh x := rotate64 19 x ^^^ rotate64 61 x ^^^ (x >>> 6)
  sumLow x := rotate64 28 x ^^^ rotate64 34 x ^^^ rotate64 39 x
  sumHigh x := rotate64 14 x ^^^ rotate64 18 x ^^^ rotate64 41 x
  initial := ((primes.take 8).map fun p => UInt64.ofNat (rootFraction 2 64 p)).toArray
  constants := (primes.map fun p => UInt64.ofNat (rootFraction 3 64 p)).toArray

end Sha2

def sha256 : Hash := ⟨64, Sha2.digest Sha2.words32⟩

def sha512 : Hash := ⟨128, Sha2.digest Sha2.words64⟩

end ComposeSite.Crypto
