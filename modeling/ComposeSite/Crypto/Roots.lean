/-
# ComposeSite.Crypto.Roots -- constants made of roots and of the circle

Hash functions take constants from the fractional parts of roots of the first
primes, and one cipher takes its tables from the fraction of the circle constant.
Both are computed in whole numbers.
-/

set_option autoImplicit false

namespace ComposeSite.Crypto

def isPrime (n : Nat) : Bool :=
  2 ≤ n && (List.range n).all fun d => d < 2 || n % d != 0

def primes : List Nat := (List.range 410).filter isPrime

/-- The largest number below two to the power `bits` whose `degree`th power is at most `n`. -/
def root (degree bits n : Nat) : Nat :=
  (List.range bits).reverse.foldl (fun r b =>
    let candidate := r + Nat.pow 2 b
    if Nat.pow candidate degree ≤ n then candidate else r) 0

/-- The first `width` binary digits after the point of a root of `n`. -/
def rootFraction (degree width n : Nat) : Nat :=
  root degree (width + 8) (n <<< (degree * width)) % Nat.pow 2 width

/-- The sum of the series of the inverse tangent of `1 / x`, scaled by `scale`. -/
def arctanInverse (scale x : Nat) (terms : Nat) : Int :=
  ((List.range terms).foldl (fun (sum, power) k =>
    let term : Int := Int.ofNat (power / (2 * k + 1))
    (if k % 2 = 0 then sum + term else sum - term, power / (x * x)))
    ((0 : Int), scale / x)).1

/-- The first `bits` binary digits after the point of the circle constant. -/
def circleFraction (bits : Nat) : Nat :=
  let guard := 64
  let scale := Nat.pow 2 (bits + guard)
  let quarter := 4 * arctanInverse scale 5 (bits / 4 + 32) - arctanInverse scale 239 (bits / 15 + 32)
  ((4 * quarter).toNat >>> guard) % Nat.pow 2 bits

end ComposeSite.Crypto
