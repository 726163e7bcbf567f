/-
# ComposeSite.Crypto.Curve -- public points of elliptic keys

A public key is a multiple of a fixed point. Points are kept by their two
coordinates, with `none` for the point at infinity of the first family of curves;
the second family needs none.
-/
import ComposeSite.Crypto.Padding
import ComposeSite.Crypto.Sha2

set_option autoImplicit false

namespace ComposeSite.Crypto

/-- A power modulo `p`; `bits` bounds the length of the exponent. -/
def modPower (p base exponent bits : Nat) : Nat :=
  ((List.range bits).foldl (fun (result, square) i =>
    (if exponent.testBit i then result * square % p else result, square * square % p))
    (1 % p, base % p)).1

/-- The inverse modulo a prime of at most `bits` binary digits. -/
def modInverse (p bits n : Nat) : Nat := modPower p n (p - 2) bits

/-- A multiple of a point by doubling and adding. -/
def multiple {P : Type} (add : P → P → P) (zero base : P) (scalar bits : Nat) : P :=
  ((List.range bits).foldl (fun (result, power) i =>
    (if scalar.testBit i then add result power else result, add power power))
    (zero, base)).1

/-- A curve whose equation is a cube, a multiple of the first coordinate by minus three and a
constant, with its base point. -/
structure CubicCurve where
  bits : Nat
  modulus : Nat
  baseX : Nat
  baseY : Nat
  order : Nat

namespace CubicCurve

abbrev Point := Option (Nat × Nat)

def add (c : CubicCurve) : Point → Point → Point
  | none, q => q
  | p, none => p
  | some (x1, y1), some (x2, y2) =>
      let m := c.modulus
      if x1 = x2 ∧ (y1 + y2) % m = 0 then none
      else
        let (num, den) :=
          if x1 = x2 then (3 * x1 * x1 + (m - 3), 2 * y1) else (y2 + (m - y1), x2 + (m - x1))
        let slope := num % m * modInverse m c.bits (den % m) % m
        let x := (slope * slope + 2 * m - x1 - x2) % m
        some (x, (slope * (x1 + (m - x)) + (m - y1)) % m)

def publicPoint (c : CubicCurve) (scalar : Nat) : Point :=
  multiple c.add none (some (c.baseX, c.baseY)) scalar c.bits

def p256 : CubicCurve where
  bits := 256
  modulus := Nat.pow 2 256 - Nat.pow 2 224 + Nat.pow 2 192 + Nat.pow 2 96 - 1
  baseX := 0x6b17d1f2e12c4247f8bce6e563a440f277037d812deb33a0f4a13945d898c296
  baseY := 0x4fe342e2fe1a7f9b8ee7eb4a7c0f9e162bce33576b315ececbb6406837bf51f5
  order := 0xffffffff00000000ffffffffffffffffbce6faada7179e84f3b9cac2fc632551

def p384 : CubicCurve where
  bits := 384
  modulus := Nat.pow 2 384 - Nat.pow 2 128 - Nat.pow 2 96 + Nat.pow 2 32 - 1
  baseX := 0xaa87ca22be8b05378eb1c71ef320ad746e1d3b628ba79b9859f741e082542a385502f25dbf55296c3a545e3872760ab7
  baseY := 0x3617de4a96262c6f5d9e98bf9292dc29f8f41dbd289a147ce9da3113b5f0b8c00a60b1ce1d7e819d7a431d7c90ea0e5f
  order := 0xffffffffffffffffffffffffffffffffffffffffffffffffc7634d81f4372ddf581a0db248b0a77aecec196accc52973

def p521 : CubicCurve where
  bits := 521
  modulus := Nat.pow 2 521 - 1
  baseX := 0x00c6858e06b70404e9cd9e3ecb662395b4429c648139053fb521f828af606b4d3dbaa14b5e77efe75928fe1dc127a2ffa8de3348b3c1856a429bf97e7e31c2e5bd66
  baseY := 0x011839296a789a3bc0045c8a5fb42c7d1bd998f54449579b446817afbd17273e662c97ee72995ef42640c550b9013fad0761353c7086a272c24088be94769fd16650
  order := 0x01fffffffffffffffffffffffffffffffffffffffffffffffffffffffffffffffffa51868783bf2f966b7fcc0148f709a5d03bb5c9b8899c47aebb6fb71e91386409

end CubicCurve

namespace TwistedCurve

def modulus : Nat := Nat.pow 2 255 - 19

def bits : Nat := 255

def constant : Nat :=
  (modulus - 121665) * modInverse modulus bits 121666 % modulus

def add (p q : Nat × Nat) : Nat × Nat :=
  let (x1, y1) := p
  let (x2, y2) := q
  let m := modulus
  let t := constant * (x1 * x2 % m) % m * (y1 * y2 % m) % m
  ((x1 * y2 + x2 * y1) % m * modInverse m bits ((1 + t) % m) % m,
    (y1 * y2 + x1 * x2) % m * modInverse m bits ((1 + m - t) % m) % m)

def base : Nat × Nat :=
  (15112221349535400772501151409588531511454012693041857206046113283949847762202,
    46316835694926478169428394003475163141307993866256225615783033603165251855960)

/-- The octets of a point: the second coordinate and one bit of the first. -/
def encode (p : Nat × Nat) : Bytes :=
  littleEndianOctets 32 (p.2 + (p.1 % 2) * Nat.pow 2 255)

def scalar (seed : Bytes) : Nat :=
  let n := ofLittleEndian ((sha512.digest seed).take 32)
  n % Nat.pow 2 254 / 8 * 8 + Nat.pow 2 254

def publicKey (seed : Bytes) : Bytes :=
  encode (multiple add (0, 1) base (scalar seed) 255)

end TwistedCurve

end ComposeSite.Crypto
