/-
# ComposeSite.Crypto.Sha1 -- the hash function SHA-1
-/
import ComposeSite.Crypto.Padding

set_option autoImplicit false

namespace ComposeSite.Crypto.Sha1

def rotate (n : UInt32) (x : UInt32) : UInt32 := (x <<< n) ||| (x >>> (32 - n))

structure State where
  a : UInt32
  b : UInt32
  c : UInt32
  d : UInt32
  e : UInt32

def initial : State := ⟨0x67452301, 0xEFCDAB89, 0x98BADCFE, 0x10325476, 0xC3D2E1F0⟩

/-- The message words of a block, extended to one for each round. -/
def schedule (block : Array UInt32) : Array UInt32 :=
  (List.range 64).foldl (fun w i =>
    w.push (rotate 1 (w[i + 13]! ^^^ w[i + 8]! ^^^ w[i + 2]! ^^^ w[i]!))) block

def round (s : State) (i : Nat) (w : UInt32) : State :=
  let (f, k) : UInt32 × UInt32 :=
    if i < 20 then ((s.b &&& s.c) ||| (~~~s.b &&& s.d), 0x5A827999)
    else if i < 40 then (s.b ^^^ s.c ^^^ s.d, 0x6ED9EBA1)
    else if i < 60 then ((s.b &&& s.c) ||| (s.b &&& s.d) ||| (s.c &&& s.d), 0x8F1BBCDC)
    else (s.b ^^^ s.c ^^^ s.d, 0xCA62C1D6)
  ⟨rotate 5 s.a + f + s.e + k + w, s.a, rotate 30 s.b, s.c, s.d⟩

def compress (state : State) (block : Bytes) : State :=
  let w := schedule ((pieces 4 block).map fun bs => UInt32.ofNat (ofBigEndian bs)).toArray
  let s := (List.range 80).foldl (fun s i => round s i w[i]!) state
  ⟨state.a + s.a, state.b + s.b, state.c + s.c, state.d + s.d, state.e + s.e⟩

def digest (message : Bytes) : Bytes :=
  let s := (pieces 64 (padded 64 (bigEndianOctets 8) message)).foldl compress initial
  [s.a, s.b, s.c, s.d, s.e].flatMap fun w => bigEndianOctets 4 w.toNat

end Sha1

def sha1 : Hash := ⟨64, Sha1.digest⟩

end ComposeSite.Crypto
