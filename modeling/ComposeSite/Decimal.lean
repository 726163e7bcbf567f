/-
# ComposeSite.Decimal -- decimal numbers and their nearest double

Configuration texts spell numbers in decimal.  A number that is not an integer is
shown as the double nearest to it, in the fewest digits that read back as that
double, positionally and with a point (`Decimal.shown`).
-/

set_option autoImplicit false

namespace ComposeSite

/-- The number `± mantissa · 10 ^ exponent`. -/
structure Decimal where
  negative : Bool
  mantissa : Nat
  exponent : Int
  deriving DecidableEq, Repr

namespace Decimal

/-- A positive double as `significand · 2 ^ power`. -/
structure Binary where
  significand : Nat
  power : Int

def Binary.ofFloat (x : Float) : Binary :=
  let bits := x.toBits.toNat
  let field : Nat := bits / 0x10000000000000 % 2048
  let fraction : Nat := bits % 0x10000000000000
  if field = 0 then ⟨fraction, -1074⟩
  else ⟨fraction + 0x10000000000000, Int.ofNat field - 1075⟩

/-- Digits and power of ten that stay within the numbers nearest to a double, with as few
digits as possible; of two candidates of one length the nearer. The bounds are the
midpoints to the neighbouring doubles, which count only for an even significand. -/
def Binary.shortest (b : Binary) : Nat × Int :=
  -- all quantities are scaled by 4 and by a common power of ten and two
  let low := if b.significand = 0x10000000000000 ∧ b.power > -1074 then 4 * b.significand - 1
    else 4 * b.significand - 2
  let high := 4 * b.significand + 2
  let mid := 4 * b.significand
  let even := b.significand % 2 = 0
  let power := b.power - 2
  let scale (n : Nat) : Nat := if power ≥ 0 then n * Nat.pow 2 power.toNat else n
  let unit : Nat := if power ≥ 0 then 1 else Nat.pow 2 (-power).toNat
  -- the value is mid * 2 ^ power = scale mid / unit
  let inside (digits : Nat) (e : Int) : Bool :=
    let n := if e ≥ 0 then digits * Nat.pow 10 e.toNat * unit else digits * unit
    let tens := if e ≥ 0 then 1 else Nat.pow 10 (-e).toNat
    let l := scale low * tens
    let h := scale high * tens
    if even then l ≤ n && n ≤ h else l < n && n < h
  let length : Int := (Nat.toDigits 10 (scale mid / unit)).length
  let top : Int := if scale mid / unit = 0 then 0 else length
  let rec search : Nat → Int → Nat × Int
    | 0, e => (0, e)
    | fuel + 1, e =>
        let num := if e ≥ 0 then scale mid else scale mid * Nat.pow 10 (-e).toNat
        let den := if e ≥ 0 then unit * Nat.pow 10 e.toNat else unit
        let below := num / den
        let nearestFirst := if 2 * (num % den) < den then [below, below + 1] else [below + 1, below]
        match nearestFirst.find? (fun d => d > 0 && inside d e) with
        | some d => (d, e)
        | none => search fuel (e - 1)
  search 400 top

def dropEndZeros (cs : List Char) : List Char := (cs.reverse.dropWhile (· = '0')).reverse

/-- Writes digits with a power of ten positionally, with at least one digit on each side
of the point. -/
def positional (digits : Nat) (exponent : Int) : String :=
  let ds := Nat.toDigits 10 digits
  if exponent ≥ 0 then
    String.ofList (ds ++ List.replicate exponent.toNat '0') ++ ".0"
  else
    let places := (-exponent).toNat
    let padded := List.replicate (places + 1 - ds.length) '0' ++ ds
    let whole := padded.take (padded.length - places)
    let fraction := dropEndZeros (padded.drop (padded.length - places))
    String.ofList whole ++ "." ++ (if fraction.isEmpty then "0" else String.ofList fraction)

/-- The double nearest to a decimal number, without its sign. Numbers far beyond the largest
or below the smallest double are told by their size. -/
def magnitude (d : Decimal) : Float :=
  let size := d.exponent + (Nat.toDigits 10 d.mantissa).length
  if d.mantissa = 0 ∨ size < -400 then 0
  else if size > 400 then 1 / 0
  else if d.exponent ≥ 0 then Float.ofScientific d.mantissa false d.exponent.toNat
  else Float.ofScientific d.mantissa true (-d.exponent).toNat

/-- Whether a decimal number is beyond the doubles. -/
def overflows (d : Decimal) : Bool := d.magnitude.isInf

/-- The nearest double of a decimal number, in the fewest digits that read back. -/
def shown (d : Decimal) : String :=
  let sign := if d.negative then "-" else ""
  let x := d.magnitude
  if x.isInf then sign ++ "inf"
  else if x == 0 then sign ++ "0.0"
  else
    let (digits, exponent) := (Binary.ofFloat x).shortest
    sign ++ positional digits exponent

end Decimal

end ComposeSite
