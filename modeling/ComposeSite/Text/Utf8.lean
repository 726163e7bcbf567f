/-
# ComposeSite.Text.Utf8 -- octets as text

Decoding is a machine that reads one octet at a time (`State.step`).  Each step
may complete a character, and a maximal ill-formed part counts as one unit
without a character.  From this one pass come the two readings of octets:
`decodeLossy`, which puts the replacement character for each ill-formed part, and
`decode?`, which accepts well-formed text only.

A line feed always returns the machine to its start, so text may be decoded line by
line.
-/
import ComposeSite.Bytes

set_option autoImplicit false

namespace ComposeSite.Text.Utf8

/-- Which octets may come next inside a character: the second octet of some
characters is confined further than the rest. -/
inductive Follower where
  | any
  | fromA0
  | upTo9F
  | from90
  | upTo8F
  deriving DecidableEq, Repr

def Follower.admits : Follower → UInt8 → Bool
  | any, b => 0x80 ≤ b && b ≤ 0xBF
  | fromA0, b => 0xA0 ≤ b && b ≤ 0xBF
  | upTo9F, b => 0x80 ≤ b && b ≤ 0x9F
  | from90, b => 0x90 ≤ b && b ≤ 0xBF
  | upTo8F, b => 0x80 ≤ b && b ≤ 0x8F

/-- Where the decoder stands: between characters, or inside one of which some
octets have been read and `missing + 1` are still to come. -/
inductive State where
  | ground
  | inside (value missing : Nat) (next : Follower)
  deriving DecidableEq, Repr

namespace State

def start (b : UInt8) : List (Option Char) × State :=
  if b < 0x80 then ([some (Char.ofNat b.toNat)], ground)
  else if b < 0xC2 then ([none], ground)
  else if b < 0xE0 then ([], inside (b.toNat - 0xC0) 0 .any)
  else if b < 0xF0 then
    ([], inside (b.toNat - 0xE0) 1
      (if b = 0xE0 then .fromA0 else if b = 0xED then .upTo9F else .any))
  else if b < 0xF5 then
    ([], inside (b.toNat - 0xF0) 2
      (if b = 0xF0 then .from90 else if b = 0xF4 then .upTo8F else .any))
  else ([none], ground)

/-- Reads one octet: the units it completes, in order, and the next state.  An
octet that cannot continue a character ends it as ill-formed and starts anew. -/
def step : State → UInt8 → List (Option Char) × State
  | ground, b => start b
  | inside value missing next, b =>
      if next.admits b then
        let value := 64 * value + (b.toNat - 0x80)
        match missing with
        | 0 => ([some (Char.ofNat value)], ground)
        | missing + 1 => ([], inside value missing .any)
      else
        let (units, state) := start b
        (none :: units, state)

/-- The unit that the end of the input completes. -/
def close : State → List (Option Char)
  | ground => []
  | inside .. => [none]

end State

/-- The units of an octet string, read from a given state. -/
def unitsFrom : State → Bytes → List (Option Char)
  | s, [] => s.close
  | s, b :: bs =>
      let (units, next) := s.step b
      units ++ unitsFrom next bs

/-- The characters and ill-formed parts of an octet string. -/
def units (bs : Bytes) : List (Option Char) := unitsFrom .ground bs

def replacement : Char := '\uFFFD'

/-- Characters, with the replacement character for each maximal ill-formed part. -/
def decodeLossyChars (bs : Bytes) : List Char :=
  (units bs).map (·.getD replacement)

def decodeLossy (bs : Bytes) : String :=
  String.ofList (decodeLossyChars bs)

def decode? (bs : Bytes) : Option String :=
  ((units bs).mapM id).map String.ofList

def encodeChars (cs : List Char) : Bytes :=
  cs.flatMap String.utf8EncodeChar

def encode (s : String) : Bytes :=
  encodeChars s.toList

end ComposeSite.Text.Utf8
