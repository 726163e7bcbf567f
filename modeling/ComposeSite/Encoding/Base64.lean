/-
# ComposeSite.Encoding.Base64 -- octets in sixty-four symbols

The reader takes symbols four at a time, ignores line ends between them, and
allows padding at the end of each block.  A failure names the first place, counted
in characters of the text, at which the reader could not go on.
-/
import ComposeSite.Bytes

set_option autoImplicit false

namespace ComposeSite.Base64

inductive Failure where
  | length (position : Nat)
  | symbol (position : Nat)
  | trailingBits (position : Nat)
  | padding (position : Nat)
  deriving DecidableEq, Repr

def Failure.message : Failure → String
  | length n => s!"invalid length at {n}"
  | symbol n => s!"invalid symbol at {n}"
  | trailingBits n => s!"non-zero trailing bits at {n}"
  | padding n => s!"invalid padding length at {n}"

def value? (c : Char) : Option Nat :=
  if 'A' ≤ c ∧ c ≤ 'Z' then some (c.toNat - 65)
  else if 'a' ≤ c ∧ c ≤ 'z' then some (c.toNat - 71)
  else if '0' ≤ c ∧ c ≤ '9' then some (c.toNat + 4)
  else if c = '+' then some 62
  else if c = '/' then some 63
  else none

def symbol (n : Nat) : Char :=
  if n < 26 then Char.ofNat (n + 65)
  else if n < 52 then Char.ofNat (n + 71)
  else if n < 62 then Char.ofNat (n - 4)
  else if n = 62 then '+' else '/'

/-- The values of symbols, or the place of the first that is none. -/
def values : List (Nat × Char) → Except Failure (List Nat)
  | [] => .ok []
  | (position, c) :: rest =>
      match value? c with
      | none => .error (.symbol position)
      | some v => (values rest).map (v :: ·)

def decodeBlock (block : List (Nat × Char)) : Except Failure Bytes := do
  let pads := (block.reverse.takeWhile fun (_, c) => c = '=').length
  let used := block.take (block.length - pads)
  if used.length < 2 then
    match block[used.length]? with
    | some (position, _) => throw (.padding position)
    | none => throw (.padding 0)
  let vs ← values used
  let last := ((used.getLast?).map (·.1)).getD 0
  match vs with
  | [a, b] =>
      if b % 16 = 0 then return [UInt8.ofNat (a * 4 + b / 16)]
      else throw (.trailingBits last)
  | [a, b, c] =>
      if c % 4 = 0 then
        return [UInt8.ofNat (a * 4 + b / 16), UInt8.ofNat (b % 16 * 16 + c / 4)]
      else throw (.trailingBits last)
  | [a, b, c, d] =>
      return [UInt8.ofNat (a * 4 + b / 16), UInt8.ofNat (b % 16 * 16 + c / 4),
        UInt8.ofNat (c % 4 * 64 + d)]
  | _ => throw (.length last)

def decodeBlocks : List (Nat × Char) → Except Failure Bytes
  | [] => .ok []
  | a :: b :: c :: d :: rest => do
      let front ← decodeBlock [a, b, c, d]
      let back ← decodeBlocks rest
      pure (front ++ back)
  | (position, _) :: _ => .error (.length position)

/-- Pairs items with their places, counted from a number. -/
def placed {α : Type} : Nat → List α → List (Nat × α)
  | _, [] => []
  | n, a :: rest => (n, a) :: placed (n + 1) rest

/-- The octets of a text; line ends are ignored. -/
def decode (cs : List Char) : Except Failure Bytes :=
  decodeBlocks ((placed 0 cs).filter fun (_, c) => c ≠ '\r' ∧ c ≠ '\n')

/-- The symbols of octets, padded to whole blocks. -/
def encodeChars : Bytes → List Char
  | [] => []
  | [a] => [symbol (a.toNat / 4), symbol (a.toNat % 4 * 16), '=', '=']
  | [a, b] =>
      [symbol (a.toNat / 4), symbol (a.toNat % 4 * 16 + b.toNat / 16),
        symbol (b.toNat % 16 * 4), '=']
  | a :: b :: c :: rest =>
      symbol (a.toNat / 4) :: symbol (a.toNat % 4 * 16 + b.toNat / 16) ::
        symbol (b.toNat % 16 * 4 + c.toNat / 64) :: symbol (c.toNat % 64) :: encodeChars rest

def encode (bs : Bytes) : String := String.ofList (encodeChars bs)

end ComposeSite.Base64
