/-
# ComposeSite.Encoding.Der -- tagged values

A value is a tag, the length of its content and the content.  Lengths are written
in as few octets as possible.
-/
import ComposeSite.Bytes

set_option autoImplicit false

namespace ComposeSite.Der

inductive Failure where
  | incomplete (expected actual place : Nat)
  | unexpectedTag (expected actual : String)
  | unknownTag (octet : Nat)
  | length (tag : String)
  | value (tag : String)
  | noncanonical (tag : String)
  | trailing (decoded remaining : Nat)
  | placed (f : Failure) (place : Nat)
  deriving DecidableEq, Repr

def Failure.message : Failure → String
  | incomplete expected actual place =>
      s!"ASN.1 DER message is incomplete: expected {expected}, actual {actual} " ++
      s!"at DER byte {place}"
  | unexpectedTag expected actual =>
      s!"unexpected ASN.1 DER tag: expected {expected}, got {actual}"
  | unknownTag octet =>
      let shown := Hex.encode [UInt8.ofNat octet]
      s!"unknown/unsupported ASN.1 DER tag: 0x{shown}"
  | length tag => s!"incorrect length for {tag}"
  | value tag => s!"malformed ASN.1 DER value for {tag}"
  | noncanonical tag => s!"ASN.1 {tag} not canonically encoded as DER"
  | trailing decoded remaining =>
      s!"trailing data at end of DER message: decoded {decoded} bytes, " ++
      s!"{remaining} bytes remaining at DER byte {decoded}"
  | placed f place =>
      let text := f.message
      s!"{text} at DER byte {place}"

/-- The tags that occur in keys. -/
inductive Tag where
  | boolean
  | integer
  | bitString
  | octetString
  | null
  | objectIdentifier
  | sequence
  | set
  | context (constructed : Bool) (number : Nat)
  | other (octet : Nat) (name : String)
  deriving DecidableEq, Repr

namespace Tag

def name : Tag → String
  | boolean => "BOOLEAN"
  | integer => "INTEGER"
  | bitString => "BIT STRING"
  | octetString => "OCTET STRING"
  | null => "NULL"
  | objectIdentifier => "OBJECT IDENTIFIER"
  | sequence => "SEQUENCE"
  | set => "SET"
  | context constructed number =>
      let kind := if constructed then "constructed" else "primitive"
      s!"CONTEXT-SPECIFIC [{number}] ({kind})"
  | other _ name => name

/-- Names of tags that are known but do not occur in keys. -/
def otherNames : List (Nat × String) :=
  [(0x09, "REAL"), (0x0A, "ENUMERATED"), (0x0C, "UTF8String"), (0x12, "NumericString"),
   (0x13, "PrintableString"), (0x14, "TeletexString"), (0x15, "VideotexString"),
   (0x16, "IA5String"), (0x17, "UTCTime"), (0x18, "GeneralizedTime"), (0x1A, "VisibleString"),
   (0x1D, "BMPString")]

def ofOctet? (b : UInt8) : Option Tag :=
  match b.toNat with
  | 0x01 => some boolean
  | 0x02 => some integer
  | 0x03 => some bitString
  | 0x04 => some octetString
  | 0x05 => some null
  | 0x06 => some objectIdentifier
  | 0x30 => some sequence
  | 0x31 => some set
  | n =>
      if 0x80 ≤ n ∧ n < 0xC0 ∧ n % 0x20 ≠ 0x1F then some (context (n % 0x40 ≥ 0x20) (n % 0x20))
      else (otherNames.lookup n).map (other n)

end Tag

structure Item where
  tag : Tag
  content : Bytes
  deriving DecidableEq, Repr

/-- A value and the octets after it. -/
abbrev Reader (α : Type) := Bytes → Except Failure (α × Bytes)

def readLength (tag : Tag) : Reader Nat
  | [] => .error (.incomplete 2 1 1)
  | b :: rest =>
      let n := b.toNat
      if n < 0x80 then .ok (n, rest)
      else
        let count := n - 0x80
        if count = 0 ∨ count > 4 then .error (.length tag.name)
        else if rest.length < count then
          .error (.incomplete (2 + count) (2 + rest.length) 2)
        else
          let value := (rest.take count).foldl (fun n b => 256 * n + b.toNat) 0
          if value < 0x80 ∨ value < Nat.pow 256 (count - 1) then .error (.noncanonical tag.name)
          else .ok (value, rest.drop count)

/-- Reads any value. -/
def readItem : Reader Item
  | [] => .error (.incomplete 1 0 0)
  | b :: all => do
      match Tag.ofOctet? b with
      | none => throw (.unknownTag b.toNat)
      | some tag =>
          let (n, rest) ← readLength tag all
          let header := 1 + all.length - rest.length
          if n ≤ rest.length then pure (⟨tag, rest.take n⟩, rest.drop n)
          else throw (.incomplete (header + n) (header + rest.length) header)

def read (tag : Tag) : Reader Bytes
  | [] => .error (.incomplete 1 0 0)
  | b :: rest =>
      match Tag.ofOctet? b with
      | none => .error (.unknownTag b.toNat)
      | some t =>
          if t = tag then (readItem (b :: rest)).map fun (item, rest) => (item.content, rest)
          else
            match readLength t rest with
            | .error f => .error f
            | .ok _ => .error (.unexpectedTag tag.name t.name)

/-- The number of octets before the content of the first value. -/
def headerSize (bs : Bytes) : Nat :=
  match bs with
  | _ :: b :: _ => if b < 0x80 then 2 else 2 + (b.toNat - 0x80)
  | _ => 2

def readNatural : Reader Nat := fun bs => do
  let (content, rest) ← read .integer bs
  match content with
  | [] => throw (.length Tag.integer.name)
  | [b] => if b < 0x80 then pure (b.toNat, rest) else throw (.value Tag.integer.name)
  | b :: c :: _ =>
      if b ≥ 0x80 then throw (.value Tag.integer.name)
      else if b = 0 ∧ c < 0x80 then throw (.noncanonical Tag.integer.name)
      else pure (content.foldl (fun n b => 256 * n + b.toNat) 0, rest)

def readNaturals : Nat → Reader (List Nat)
  | 0, bs => .ok ([], bs)
  | k + 1, bs => do
      let (n, rest) ← readNatural bs
      let (more, rest) ← readNaturals k rest
      pure (n :: more, rest)

/-- The arcs of an object identifier after its first octet. -/
def arcs : Nat → Bytes → List Nat
  | _, [] => []
  | value, b :: rest =>
      if b < 0x80 then (128 * value + b.toNat) :: arcs 0 rest
      else arcs (128 * value + (b.toNat - 128)) rest

def identifier (content : Bytes) : List Nat :=
  match arcs 0 content with
  | [] => []
  | first :: rest =>
      let top := min (first / 40) 2
      top :: (first - 40 * top) :: rest

def readIdentifier : Reader (List Nat) := fun bs => do
  let (content, rest) ← read .objectIdentifier bs
  if content.isEmpty then throw (.length Tag.objectIdentifier.name)
  pure (identifier content, rest)

/-- Reads a whole octet string as one value of a tag. -/
def readWhole (tag : Tag) (bs : Bytes) : Except Failure Bytes := do
  let (content, rest) ← read tag bs
  if rest.isEmpty then pure content
  else throw (.trailing (bs.length - rest.length) rest.length)

end ComposeSite.Der
