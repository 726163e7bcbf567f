/-
# ComposeSite.Http.Response -- reading an answer from a connection

An answer is a status line, header lines and a body. The body is as long as the header
says, comes in chunks, or lasts until the connection is closed; after a switch of
protocols everything that follows belongs to the new protocol.
-/
import ComposeSite.Text.Blank
import ComposeSite.Text.Numeral
import ComposeSite.Text.Split
import ComposeSite.Text.Utf8

set_option autoImplicit false

namespace ComposeSite.Http

inductive Defect where
  | closedEarly
  | version
  | status
  | header
  | contentLength
  | transferEncoding
  | tooLarge
  deriving DecidableEq, Repr

def Defect.message : Defect → String
  | closedEarly => "connection closed before message completed"
  | version => "invalid HTTP version parsed"
  | status => "invalid HTTP status-code parsed"
  | header => "invalid HTTP header parsed"
  | contentLength => "invalid content-length parsed"
  | transferEncoding => "unexpected transfer-encoding parsed"
  | tooLarge => "message head is too large"

/-- The first lines of an answer. The names of headers are in lower case. -/
structure Head where
  minor : Nat
  status : Nat
  headers : List (String × Bytes)
  deriving DecidableEq, Repr

namespace Head

/-! ## The status line -/

def dropEmptyLines : Bytes → Bytes
  | 13 :: 10 :: rest => dropEmptyLines rest
  | 10 :: rest => dropEmptyLines rest
  | bs => bs

def expect (text : Bytes) (d : Defect) (bs : Bytes) : Except Defect Bytes :=
  if text.isPrefixOf bs then .ok (bs.drop text.length)
  else if bs.isPrefixOf text then .error .closedEarly
  else .error d

def readVersion (bs : Bytes) : Except Defect (Nat × Bytes) := do
  let rest ← expect (Text.Utf8.encode "HTTP/1.") .version bs
  match rest with
  | [] => throw .closedEarly
  | 48 :: rest => pure (0, rest)
  | 49 :: rest => pure (1, rest)
  | _ => throw .version

def isDigit (b : UInt8) : Bool := 48 ≤ b && b ≤ 57

def readCode : Nat → Nat → Bytes → Except Defect (Nat × Bytes)
  | 0, value, bs => .ok (value, bs)
  | _ + 1, _, [] => .error .closedEarly
  | n + 1, value, b :: bs =>
      if isDigit b then readCode n (10 * value + (b.toNat - 48)) bs else .error .status

/-- Whether an octet may stand in the phrase after a status. -/
def isPhraseOctet (b : UInt8) : Bool := b = 9 || b = 32 || (0x21 ≤ b && b ≤ 0x7E) || b ≥ 0x80

/-- Reads to the end of the status line. -/
def skipPhrase : Bytes → Except Defect Bytes
  | [] => .error .closedEarly
  | [13] => .error .closedEarly
  | 13 :: 10 :: rest => .ok rest
  | 10 :: rest => .ok rest
  | b :: rest => if isPhraseOctet b then skipPhrase rest else .error .status

def readPhrase : Bytes → Except Defect Bytes
  | [] => .error .closedEarly
  | 32 :: rest => skipPhrase rest
  | [13] => .error .closedEarly
  | 13 :: 10 :: rest => .ok rest
  | 10 :: rest => .ok rest
  | _ => .error .status

/-! ## Header lines -/

/-- Whether an octet may stand in the name of a header. -/
def isNameOctet (b : UInt8) : Bool :=
  (48 ≤ b && b ≤ 57) || (65 ≤ b && b ≤ 90) || (97 ≤ b && b ≤ 122) ||
    (Text.Utf8.encode "!#$%&'*+-.^_`|~").contains b

/-- Whether an octet may stand in the value of a header. -/
def isValueOctet (b : UInt8) : Bool := b = 9 || (32 ≤ b && b ≠ 127)

def trimBlanks (bs : Bytes) : Bytes :=
  let blank (b : UInt8) : Bool := b = 32 || b = 9
  (((bs.dropWhile blank).reverse).dropWhile blank).reverse

def readHeader (bs : Bytes) : Except Defect ((String × Bytes) × Bytes) :=
  let name := bs.takeWhile isNameOctet
  match bs.drop name.length with
  | [] => .error .closedEarly
  | 58 :: rest =>
      if name.isEmpty then .error .header
      else
        let value := rest.takeWhile isValueOctet
        let entry := ((Text.Utf8.decodeLossy name).toLower, trimBlanks value)
        match rest.drop value.length with
        | [] => .error .closedEarly
        | [13] => .error .closedEarly
        | 13 :: 10 :: after => .ok (entry, after)
        | 10 :: after => .ok (entry, after)
        | _ => .error .header
  | _ => .error .header

def mostHeaders : Nat := 100

/-- Reads header lines up to the empty line; the fuel is their largest number. -/
def readHeaders : Nat → Bytes → Except Defect (List (String × Bytes) × Bytes)
  | _, [] => .error .closedEarly
  | _, [13] => .error .closedEarly
  | _, 13 :: 10 :: rest => .ok ([], rest)
  | _, 13 :: _ => .error .header
  | _, 10 :: rest => .ok ([], rest)
  | 0, _ => .error .tooLarge
  | n + 1, bs => do
      let (entry, rest) ← readHeader bs
      let (more, rest) ← readHeaders n rest
      pure (entry :: more, rest)

/-- Reads the first lines of an answer. -/
def read (bs : Bytes) : Except Defect (Head × Bytes) := do
  let (minor, rest) ← readVersion (dropEmptyLines bs)
  let rest ← expect [32] .version rest
  let (status, rest) ← readCode 3 0 rest
  let rest ← readPhrase rest
  let (headers, rest) ← readHeaders mostHeaders rest
  if status < 100 then throw .status
  pure (⟨minor, status, headers⟩, rest)

def values (h : Head) (name : String) : List Bytes :=
  (h.headers.filter fun (n, _) => n = name).map (·.2)

end Head

/-! ## Bodies -/

/-- How long a body is. -/
inductive Extent where
  | upgraded
  | sized (n : Nat)
  | chunked
  | untilClosed
  deriving DecidableEq, Repr

/-- The length that a header value states, which may be given several times over. -/
def statedLength? (values : List Bytes) : Option Nat := do
  let parts := values.flatMap fun v => (Text.split 44 v).map Head.trimBlanks
  let numbers ← parts.mapM fun p =>
    if p.isEmpty || !p.all Head.isDigit then none
    else Text.Numeral.unsigned? Text.Numeral.max64 (Text.Utf8.decodeLossyChars p)
  match numbers with
  | [] => none
  | n :: rest => if rest.all (· = n) then some n else none

/-- How long the body after a head is. -/
def Head.extent (h : Head) : Except Defect Extent :=
  if h.status = 101 then .ok .upgraded
  else if h.status = 204 ∨ h.status = 304 then .ok (.sized 0)
  else
    match (h.values "transfer-encoding").getLast? with
    | some encodings =>
        if h.minor = 0 then .error .transferEncoding
        else
          let last := ((Text.split 44 encodings).getLast?).getD []
          if (Text.Utf8.decodeLossy (trimBlanks last)).toLower = "chunked" then .ok .chunked
          else .ok .untilClosed
    | none =>
        match h.values "content-length" with
        | [] => .ok .untilClosed
        | values =>
            match statedLength? values with
            | some n => .ok (.sized n)
            | none => .error .contentLength

/-- A body as far as it came, and whether it came to its end. -/
structure Body where
  data : Bytes
  complete : Bool
  deriving DecidableEq, Repr

namespace Body

/-- Reads the size of a chunk: hexadecimal digits, and an extension that is skipped. -/
def readSize (bs : Bytes) : Option (Nat × Bytes) :=
  let digits := bs.takeWhile fun b => (Hex.value? (Char.ofNat b.toNat)).isSome
  let value := digits.foldl (fun n b => 16 * n + (Hex.value? (Char.ofNat b.toNat)).getD 0) 0
  let rest := (bs.drop digits.length).dropWhile fun b => b = 32 || b = 9
  let rest := match rest with
    | 59 :: more => more.dropWhile fun b => b ≠ 13 && b ≠ 10
    | _ => rest
  match rest with
  | 13 :: 10 :: after => if digits.isEmpty then none else some (value, after)
  | _ => none

/-- Whether the lines after the last chunk come to an end, which is an empty line. -/
def trailersEnd (atLineStart : Bool) : Bytes → Bool
  | [] => false
  | 13 :: 10 :: rest => if atLineStart then true else trailersEnd true rest
  | _ :: rest => trailersEnd false rest

/-- Reads chunks; the fuel is the number of octets. -/
def readChunks : Nat → Bytes → Body
  | 0, _ => ⟨[], false⟩
  | fuel + 1, bs =>
      match readSize bs with
      | none => ⟨[], false⟩
      | some (0, rest) => ⟨[], trailersEnd true rest⟩
      | some (n, rest) =>
          if rest.length < n then ⟨rest, false⟩
          else
            match rest.drop n with
            | 13 :: 10 :: after =>
                let more := readChunks fuel after
                ⟨rest.take n ++ more.data, more.complete⟩
            | _ => ⟨rest.take n, false⟩

/-- Reads a body of some extent from all that is still to come. -/
def read (e : Extent) (bs : Bytes) : Body :=
  match e with
  | .upgraded | .untilClosed => ⟨bs, true⟩
  | .sized n => ⟨bs.take n, n ≤ bs.length⟩
  | .chunked => readChunks (bs.length + 1) bs

end Body

/-- Reads an answer; preliminary answers before it are skipped. The fuel is the number of
octets. -/
def readAnswer : Nat → Bytes → Except Defect (Nat × Body)
  | 0, _ => .error .closedEarly
  | fuel + 1, bs => do
      let (head, rest) ← Head.read bs
      if head.status < 200 ∧ head.status ≠ 101 then readAnswer fuel rest
      else
        let extent ← head.extent
        pure (head.status, Body.read extent rest)

end ComposeSite.Http
