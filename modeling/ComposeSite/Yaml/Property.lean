/-
# ComposeSite.Yaml.Property -- reading anchors, tags and directives
-/
import ComposeSite.Text.Utf8
import ComposeSite.Yaml.Scalar

set_option autoImplicit false

namespace ComposeSite.Yaml.Property

open Scalar (problem)

/-! ## Anchors -/

def endsAnchor (next : Option Char) : Bool :=
  endsWord next ||
    next.any fun c => ['?', ':', ',', ']', '\x7d', '%', '@', '\x60'].contains c

def anchor (isAlias : Bool) (c : Cursor) : Except Problem (Token × Cursor) :=
  let (name, last) := c.skip.takeWhile isName
  if name.isEmpty || !endsAnchor last.next? then
    .error (problem (if isAlias then "while scanning an alias" else "while scanning an anchor")
      c.mark "did not find expected alphabetic or numeric character" last)
  else
    let name := String.ofList name
    .ok (⟨if isAlias then .aliasOf name else .anchor name, c.mark, last.mark⟩, last)

/-! ## Tags -/

def isTagChar (c : Char) : Bool :=
  isName c || [';', '/', '?', ':', '@', '&', '=', '+', '$', '.', '%', '!', '~', '*', '\'', '(',
    ')'].contains c

/-- A character that a tag between angle brackets may have besides. -/
def isVerbatimChar (c : Char) : Bool := isTagChar c || [',', '[', ']'].contains c

/-- What a tag is read within. -/
def inTag (directive : Bool) : String :=
  if directive then "while parsing a %TAG directive" else "while parsing a tag"

/-- The octet that a percent sign and two digits stand for. -/
def escapedOctet? : List Char → Option Nat
  | '%' :: rest => Scalar.hexValue? 2 rest
  | _ => none

/-- How many octets a character has whose first octet is given. -/
def octetCount? (octet : Nat) : Option Nat :=
  if octet < 0x80 then some 1
  else if octet < 0xC0 then none
  else if octet < 0xE0 then some 2
  else if octet < 0xF0 then some 3
  else if octet < 0xF8 then some 4
  else none

/-- Reads the escaped octets that continue a character. -/
def readTrailing (directive : Bool) (start : Mark) :
    Nat → Cursor → Except Problem (Bytes × Cursor)
  | 0, c => .ok ([], c)
  | count + 1, c =>
      match escapedOctet? c.rest with
      | none => .error (problem (inTag directive) start "did not find URI escaped octet" c)
      | some octet =>
          if octet / 0x40 ≠ 2 then
            .error (problem (inTag directive) start
              "found an incorrect trailing UTF-8 octet" c)
          else do
            let (more, last) ← readTrailing directive start count (c.skip 3)
            pure (UInt8.ofNat octet :: more, last)

def readEscaped (directive : Bool) (start : Mark) (c : Cursor) :
    Except Problem (List Char × Cursor) :=
  match escapedOctet? c.rest with
  | none => .error (problem (inTag directive) start "did not find URI escaped octet" c)
  | some octet =>
      match octetCount? octet with
      | none =>
          .error (problem (inTag directive) start "found an incorrect leading UTF-8 octet" c)
      | some count => do
          let (more, last) ← readTrailing directive start (count - 1) (c.skip 3)
          pure ((Text.Utf8.decodeLossy (UInt8.ofNat octet :: more)).toList, last)

def readTagChars (verbatim directive : Bool) (start : Mark) :
    Nat → Cursor → Except Problem (List Char × Cursor)
  | 0, c => .ok ([], c)
  | fuel + 1, c =>
      match c.next? with
      | some ch =>
          if ch = '%' then do
            let (chars, c) ← readEscaped directive start c
            let (more, last) ← readTagChars verbatim directive start fuel c
            pure (chars ++ more, last)
          else if (if verbatim then isVerbatimChar ch else isTagChar ch) then do
            let (more, last) ← readTagChars verbatim directive start fuel c.skip
            pure (ch :: more, last)
          else .ok ([], c)
      | none => .ok ([], c)

/-- Reads the end of a tag, of which a part has been read as a handle. -/
def readSuffix (verbatim directive : Bool) (read : List Char) (start : Mark) (c : Cursor) :
    Except Problem (List Char × Cursor) := do
  let (chars, last) ← readTagChars verbatim directive start c.rest.length c
  if chars.isEmpty && read.isEmpty then
    throw (problem (inTag directive) start "did not find expected tag URI" last)
  pure (read.drop 1 ++ chars, last)

/-- Reads a handle: names between exclamation marks, of which the second may be missing
unless a directive defines the handle. -/
def readHandle (directive : Bool) (start : Mark) (c : Cursor) :
    Except Problem (List Char × Cursor) :=
  if !c.is '!' then
    .error (problem
      (if directive then "while scanning a tag directive" else "while scanning a tag")
      start "did not find expected '!'" c)
  else
    let (name, c) := c.skip.takeWhile isName
    if c.is '!' then .ok ('!' :: name ++ ['!'], c.skip)
    else if directive && !name.isEmpty then
      .error (problem "while parsing a tag directive" start "did not find expected '!'" c)
    else .ok ('!' :: name, c)

def readTag (start : Mark) (c : Cursor) : Except Problem (List Char × List Char × Cursor) := do
  if c.after? 1 = some '<' then
    let (suffix, c) ← readSuffix true false [] start (c.skip 2)
    if !c.is '>' then
      throw (problem "while scanning a tag" start "did not find the expected '>'" c)
    pure ([], suffix, c.skip)
  else
    let (handle, c) ← readHandle false start c
    if handle.length > 1 && handle.getLast? = some '!' then
      let (suffix, c) ← readSuffix false false [] start c
      pure (handle, suffix, c)
    else
      let (suffix, c) ← readSuffix false false handle start c
      pure (if suffix.isEmpty then ([], ['!'], c) else (['!'], suffix, c))

def tag (flow : Bool) (c : Cursor) : Except Problem (Token × Cursor) := do
  let (handle, suffix, last) ← readTag c.mark c
  if !endsWord last.next? && !(flow && last.is ',') then
    throw (problem "while scanning a tag" c.mark
      "did not find expected whitespace or line break" last)
  pure (⟨.tag (String.ofList handle) (String.ofList suffix), c.mark, last.mark⟩, last)

/-! ## Directives -/

def inDirective : String := "while scanning a directive"

def inVersion : String := "while scanning a %YAML directive"

def readVersionNumber (start : Mark) (c : Cursor) : Except Problem (Nat × Cursor) :=
  let (digits, last) := c.takeWhile Char.isDigit
  if digits.length > 9 then
    .error (problem inVersion start "found extremely long version number" (c.skip 9))
  else if digits.isEmpty then
    .error (problem inVersion start "did not find expected version number" c)
  else
    .ok (digits.foldl (fun value ch => 10 * value + (ch.toNat - '0'.toNat)) 0, last)

def readVersion (start : Mark) (c : Cursor) : Except Problem (Lexeme × Cursor) := do
  let (major, c) ← readVersionNumber start (c.skipWhile isBlank)
  if !c.is '.' then
    throw (problem inVersion start "did not find expected digit or '.' character" c)
  let (minor, c) ← readVersionNumber start c.skip
  pure (.version major minor, c)

/-- Reads the handle that a directive defines and what it stands for. -/
def readTagDirective (start : Mark) (c : Cursor) : Except Problem (Lexeme × Cursor) := do
  let (handle, c) ← readHandle true start (c.skipWhile isBlank)
  if !c.next?.any isBlank then
    throw (problem (inTag true) start "did not find expected whitespace" c)
  let (value, c) ← readSuffix true true [] start (c.skipWhile isBlank)
  if !endsWord c.next? then
    throw (problem (inTag true) start "did not find expected whitespace or line break" c)
  pure (.tagDirective (String.ofList handle) (String.ofList value), c)

/-- Reads a directive and the rest of its line. -/
def directive (c : Cursor) : Except Problem (Token × Cursor) := do
  let start := c.mark
  let (name, c) := c.skip.takeWhile isName
  if name.isEmpty then
    throw (problem inDirective start "could not find expected directive name" c)
  if !endsWord c.next? then
    throw (problem inDirective start "found unexpected non-alphabetical character" c)
  let (lexeme, c) ←
    if name = "YAML".toList then readVersion start c
    else if name = "TAG".toList then readTagDirective start c
    else throw (problem inDirective start "found unknown directive name" c)
  let last := c.skipComment
  if !endsLine last.next? then
    throw (problem inDirective start "did not find expected comment or line break" last)
  pure (⟨lexeme, start, c.mark⟩, last.skipBreak)

end ComposeSite.Yaml.Property
