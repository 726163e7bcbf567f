/-
# ComposeSite.Crypto.Blowfish -- keys from passphrases, made slow

The cipher's tables are the binary digits of the circle constant. They are mixed
with the digests of a passphrase and a salt many times over, and what a fixed text
encrypts to under the tables is the key.
-/
import ComposeSite.Crypto.Padding
import ComposeSite.Crypto.Roots
import ComposeSite.Crypto.Sha2

set_option autoImplicit false

namespace ComposeSite.Crypto.Blowfish

/-- The words of the subkeys and of the four substitutions. -/
structure Tables where
  subkeys : Array UInt32
  boxes : Array UInt32
  deriving Inhabited

def subkeyCount : Nat := 18

/-- How many words the substitutions have in all. -/
def boxWords : Nat := 1024

/-- The tables before any key. -/
def initial : Tables :=
  let count := subkeyCount + boxWords
  let digits := circleFraction (32 * count)
  let words := (List.range count).map fun i =>
    UInt32.ofNat (digits >>> (32 * (count - 1 - i)))
  ⟨(words.take subkeyCount).toArray, (words.drop subkeyCount).toArray⟩

@[inline]
def substitute (boxes : Array UInt32) (x : UInt32) : UInt32 :=
  ((boxes[(x >>> 24).toNat]! + boxes[256 + ((x >>> 16) &&& 0xFF).toNat]!) ^^^
    boxes[512 + ((x >>> 8) &&& 0xFF).toNat]!) + boxes[768 + (x &&& 0xFF).toNat]!

/-- Rounds from a number on, with the two halves taking turns. -/
def rounds (t : Tables) : Nat → Nat → UInt32 → UInt32 → UInt32 × UInt32
  | 0, i, l, r => (r ^^^ t.subkeys[i + 1]!, l ^^^ t.subkeys[i]!)
  | n + 1, i, l, r =>
      let l := l ^^^ t.subkeys[i]!
      rounds t n (i + 1) (r ^^^ substitute t.boxes l) l

def encrypt (t : Tables) (l r : UInt32) : UInt32 × UInt32 := rounds t 16 0 l r

/-- The words of an octet string read in a circle. -/
def circularWords (data : Bytes) (count : Nat) : Array UInt32 :=
  let a := data.toArray
  ((List.range count).map fun i =>
    UInt32.ofNat (ofBigEndian ((List.range 4).map fun j => a[(4 * i + j) % a.size]!))).toArray

/-- Replaces all words in turn by encryptions of the ones before them, each combined with
words of the salt. -/
def expand (t : Tables) (salt key : Bytes) : Tables :=
  let keyWords := circularWords key subkeyCount
  let saltWords := circularWords salt (subkeyCount + boxWords)
  let t := { t with subkeys := t.subkeys.mapIdx fun i p => p ^^^ keyWords[i]! }
  let (t, l, r) := (List.range (subkeyCount / 2)).foldl (fun (t, l, r) i =>
    let (l, r) := encrypt t (l ^^^ saltWords[2 * i]!) (r ^^^ saltWords[2 * i + 1]!)
    ({ t with subkeys := (t.subkeys.set! (2 * i) l).set! (2 * i + 1) r }, l, r))
    (t, (0 : UInt32), (0 : UInt32))
  let (t, _, _) := (List.range (boxWords / 2)).foldl (fun ((t : Tables), l, r) i =>
    let place := subkeyCount + 2 * i
    let (l, r) := encrypt t (l ^^^ saltWords[place]!) (r ^^^ saltWords[place + 1]!)
    ({ t with boxes := (t.boxes.set! (2 * i) l).set! (2 * i + 1) r }, l, r)) (t, l, r)
  t

/-- Replaces all words in turn by encryptions of the ones before them. -/
def expandUnsalted (t : Tables) (keyWords : Array UInt32) : Tables :=
  let ⟨subkeys, boxes⟩ := t
  let subkeys := subkeys.mapIdx fun i p => p ^^^ keyWords[i]!
  let (subkeys, l, r) := fillSubkeys boxes (subkeyCount / 2) 0 subkeys 0 0
  ⟨subkeys, fillBoxes subkeys (boxWords / 2) 0 boxes l r⟩
where
  /-- Fills pairs of subkeys from a number on. -/
  fillSubkeys (boxes : Array UInt32) :
      Nat → Nat → Array UInt32 → UInt32 → UInt32 → Array UInt32 × UInt32 × UInt32
    | 0, _, subkeys, l, r => (subkeys, l, r)
    | n + 1, i, subkeys, l, r =>
        let (l, r) := encrypt ⟨subkeys, boxes⟩ l r
        fillSubkeys boxes n (i + 1) ((subkeys.set! (2 * i) l).set! (2 * i + 1) r) l r
  /-- Fills pairs of words of the substitutions from a number on. -/
  fillBoxes (subkeys : Array UInt32) :
      Nat → Nat → Array UInt32 → UInt32 → UInt32 → Array UInt32
    | 0, _, boxes, _, _ => boxes
    | n + 1, i, boxes, l, r =>
        let (l, r) := encrypt ⟨subkeys, boxes⟩ l r
        fillBoxes subkeys n (i + 1) ((boxes.set! (2 * i) l).set! (2 * i + 1) r) l r

/-- The text that is encrypted. -/
def fixedText : Bytes := "OxychromaticBlowfishSwatDynamite".toUTF8.toList

def encryptPairs (t : Tables) : List UInt32 → List UInt32
  | l :: r :: rest =>
      let (l, r) := encrypt t l r
      l :: r :: encryptPairs t rest
  | ws => ws

/-- The digest of the digests of a passphrase and a salt. -/
def slowDigest (password salt : Bytes) : Bytes :=
  let passwordWords := circularWords password subkeyCount
  let saltWords := circularWords salt subkeyCount
  let t := (List.range 64).foldl (fun t _ =>
    expandUnsalted (expandUnsalted t saltWords) passwordWords) (expand initial salt password)
  let words := (circularWords fixedText 8).toList
  let words := (List.range 64).foldl (fun ws _ => encryptPairs t ws) words
  words.flatMap fun w => littleEndianOctets 4 w.toNat

def deriveBlock (password salt : Bytes) (rounds number : Nat) : Bytes :=
  let hashed := sha512.digest password
  let first := slowDigest hashed (sha512.digest (salt ++ bigEndianOctets 4 number))
  ((List.range (rounds - 1)).foldl (fun (last, sum) _ =>
    let next := slowDigest hashed (sha512.digest last)
    (next, xorOctets sum next)) (first, first)).2

/-- A key of some length from a passphrase: the octets of the blocks are dealt out in turn. -/
def derive (password salt : Bytes) (rounds length : Nat) : Bytes :=
  let stride := (length + 31) / 32
  let blocks := ((List.range stride).map fun i =>
    (deriveBlock password salt rounds (i + 1)).toArray).toArray
  (List.range length).map fun i => (blocks[i % stride]!)[i / stride]!

end ComposeSite.Crypto.Blowfish
