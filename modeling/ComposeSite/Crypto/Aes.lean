/-
# ComposeSite.Crypto.Aes -- the block cipher AES and two ways of chaining it

The substitution is computed from its definition: the inverse in the field of 256
elements followed by an affine map.
-/
import ComposeSite.Crypto.Padding

set_option autoImplicit false

namespace ComposeSite.Crypto.Aes

/-- Multiplication by the generator of the field. -/
def double (x : UInt8) : UInt8 :=
  if x &&& 0x80 = 0 then x <<< 1 else (x <<< 1) ^^^ 0x1B

/-- Multiplication in the field of 256 elements. -/
def mul (x y : UInt8) : UInt8 :=
  ((List.range 8).foldl (fun (sum, power) i =>
    (if (y >>> UInt8.ofNat i) &&& 1 = 1 then sum ^^^ power else sum, double power))
    ((0 : UInt8), x)).1

/-- The inverse in the field; zero for zero. -/
def inverse (x : UInt8) : UInt8 :=
  UInt8.ofNat (((List.range 256).find? fun y => mul x (UInt8.ofNat y) = 1).getD 0)

def rotate (n : UInt8) (x : UInt8) : UInt8 := (x <<< n) ||| (x >>> (8 - n))

def substitution : Array UInt8 :=
  ((List.range 256).map fun i =>
    let x := inverse (UInt8.ofNat i)
    x ^^^ rotate 1 x ^^^ rotate 2 x ^^^ rotate 3 x ^^^ rotate 4 x ^^^ 0x63).toArray

def substitutionBack : Array UInt8 :=
  (List.range 256).foldl (fun table i => table.set! (substitution[i]!).toNat (UInt8.ofNat i))
    (Array.replicate 256 0)

def substitute (x : UInt8) : UInt8 := substitution[x.toNat]!

def roundConstant (i : Nat) : UInt8 := (List.range i).foldl (fun x _ => double x) 1

/-- The words of the expanded key, each of four octets. -/
def expandWords (key : Bytes) : Array Bytes :=
  let length := key.length / 4
  let total := 4 * (length + 7)
  (List.range (total - length)).foldl (fun words j =>
    let i := j + length
    let last := words[i - 1]!
    let mixed :=
      if i % length = 0 then
        let turned := (last.drop 1 ++ last.take 1).map substitute
        xorOctets turned [roundConstant (i / length - 1), 0, 0, 0]
      else if length > 6 && i % length = 4 then last.map substitute
      else last
    words.push (xorOctets words[i - length]! mixed)) (pieces 4 key).toArray

def roundKeys (key : Bytes) : List Bytes :=
  (pieces 4 (expandWords key).toList).map List.flatten

/-- Shifts the rows by a number of columns to the left for each row. -/
def shiftRows (distance : Nat) (block : Bytes) : Bytes :=
  let a := block.toArray
  (List.range 16).map fun i => a[(i + 4 * distance * (i % 4)) % 16]!

/-- Multiplies every column by a circulant matrix. -/
def mixColumns (row : List UInt8) (block : Bytes) : Bytes :=
  (pieces 4 block).flatMap fun column =>
    (List.range 4).map fun i =>
      (List.range 4).foldl (fun sum j =>
        sum ^^^ mul (row.getD ((j + 4 - i) % 4) 0) (column.getD j 0)) 0

def encryptBlock (keys : List Bytes) (block : Bytes) : Bytes :=
  match keys with
  | [] => block
  | first :: rest =>
      let s := rest.dropLast.foldl (fun s k =>
        xorOctets (mixColumns [2, 3, 1, 1] (shiftRows 1 (s.map substitute))) k)
        (xorOctets block first)
      xorOctets (shiftRows 1 (s.map substitute)) (rest.getLastD [])

def decryptBlock (keys : List Bytes) (block : Bytes) : Bytes :=
  match keys.reverse with
  | [] => block
  | last :: rest =>
      let back (s : Bytes) : Bytes := (shiftRows 3 s).map fun x => substitutionBack[x.toNat]!
      let s := rest.dropLast.foldl (fun s k =>
        mixColumns [14, 11, 13, 9] (xorOctets (back s) k)) (xorOctets block last)
      xorOctets (back s) (rest.getLastD [])

/-- Decrypts a chain of blocks, each combined with the one before it. -/
def decryptChained (key iv data : Bytes) : Bytes :=
  let keys := roundKeys key
  ((pieces 16 data).foldl (fun (out, before) block =>
    (out ++ xorOctets (decryptBlock keys block) before, block)) (([] : Bytes), iv)).1

/-- Encrypts or decrypts with a counter. -/
def applyCounter (key iv data : Bytes) : Bytes :=
  let keys := roundKeys key
  let start := ofBigEndian iv
  (((pieces 16 data).zipIdx).flatMap fun (block, i) =>
    xorOctets block (encryptBlock keys (bigEndianOctets 16 (start + i))))

/-- Removes padding of octets that tell how many they are. -/
def unpad? (data : Bytes) : Option Bytes :=
  match data.getLast? with
  | none => none
  | some n =>
      let count := n.toNat
      if 1 ≤ count ∧ count ≤ 16 ∧ count ≤ data.length ∧
          (data.drop (data.length - count)).all (· = n) then
        some (data.take (data.length - count))
      else none

end ComposeSite.Crypto.Aes
