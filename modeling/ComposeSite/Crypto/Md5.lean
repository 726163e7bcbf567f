/-
# ComposeSite.Crypto.Md5 -- the hash function MD5
-/
import ComposeSite.Crypto.Padding

set_option autoImplicit false

namespace ComposeSite.Crypto.Md5

def rotate (n : UInt32) (x : UInt32) : UInt32 := (x <<< n) ||| (x >>> (32 - n))

/-- The four words of the state. -/
structure State where
  a : UInt32
  b : UInt32
  c : UInt32
  d : UInt32

def initial : State := ⟨0x67452301, 0xEFCDAB89, 0x98BADCFE, 0x10325476⟩

/-- The constants of the rounds: the fractions of the sines of one to sixty-four. -/
def constants : Array UInt32 :=
  ((List.range 64).map fun i =>
    ((Float.sin (Float.ofNat (i + 1))).abs * 4294967296.0).floor.toUInt32).toArray

/-- How far each round rotates. -/
def rotations : Array UInt32 :=
  ([[7, 12, 17, 22], [5, 9, 14, 20], [4, 11, 16, 23], [6, 10, 15, 21]].flatMap fun row =>
    row ++ row ++ row ++ row).toArray

def round (words : Array UInt32) (s : State) (i : Nat) : State :=
  let (f, k) : UInt32 × Nat :=
    if i < 16 then ((s.b &&& s.c) ||| (~~~s.b &&& s.d), i)
    else if i < 32 then ((s.d &&& s.b) ||| (~~~s.d &&& s.c), (5 * i + 1) % 16)
    else if i < 48 then (s.b ^^^ s.c ^^^ s.d, (3 * i + 5) % 16)
    else (s.c ^^^ (s.b ||| ~~~s.d), (7 * i) % 16)
  ⟨s.d, s.b + rotate rotations[i]! (s.a + f + constants[i]! + words[k]!), s.b, s.c⟩

/-- Takes one block into the state. -/
def compress (state : State) (block : Bytes) : State :=
  let words := ((pieces 4 block).map fun bs => UInt32.ofNat (ofLittleEndian bs)).toArray
  let s := (List.range 64).foldl (round words) state
  ⟨state.a + s.a, state.b + s.b, state.c + s.c, state.d + s.d⟩

def digest (message : Bytes) : Bytes :=
  let s := (pieces 64 (padded 64 (littleEndianOctets 8) message)).foldl compress initial
  [s.a, s.b, s.c, s.d].flatMap fun w => littleEndianOctets 4 w.toNat

end Md5

def md5 : Hash := ⟨64, Md5.digest⟩

/-- The key that a passphrase and the front of a start value give. -/
def md5Key (passphrase : String) (iv : Bytes) : Bytes :=
  md5.digest (passphrase.toUTF8.toList ++ iv.take 8)

end ComposeSite.Crypto
