/-
# ComposeSite.Context.Document -- contexts as JSON

A context is written as an object of its settings in order, of which some are left
out when empty.  Reading takes the settings in any order, skips names it does not
know, and gives those that are left out their defaults.
-/
import ComposeSite.Failure
import ComposeSite.Json.Decode

set_option autoImplicit false

namespace ComposeSite.Context

open Json (Node Fault Value)

/-! ## Writing -/

def Shape.toJson : (s : Shape) → s.Carrier → Value
  | .text, v => .text v
  | .flag, v => .bool v
  | .port, (v : UInt16) => .nat v.toNat
  | .optionalText, none => .null
  | .optionalText, some v => .text v
  | .texts, v => .texts v
  | .hostKind, v => .text (HostKind.name v)

def omitted (c : Context) : Field → Bool
  | .sshHostname => c.sshHostname.isEmpty
  | .sshKey => c.sshKey.isEmpty
  | .profile => c.profile.isNone
  | .envFiles => c.envFiles.isEmpty
  | .composeFiles => c.composeFiles.isEmpty
  | _ => false

def toJson (c : Context) : Value :=
  .object ((Field.all.filter fun f => !c.omitted f).map fun f =>
    (f.key, Shape.toJson f.shape (c.get f)))

/-! ## Reading -/

/-- Reads the host kind. An object of one member stands for the name of the member. -/
def readKind : Node → Except Fault HostKind
  | .text s _ stop => do
      let name ← s
      match HostKind.ofName? name with
      | some k => pure k
      | none => throw (.ofData (.unknownVariant name HostKind.names) stop)
  | .object _ members tail =>
      match members with
      | [] =>
          match tail with
          | .broken b =>
              if b.read.cause = .defect .endInObject then
                .error (.ofDefect .endInValue b.read.position)
              else .error b.read
          | .closed stop => .error (.ofDefect .expectedValue stop)
      | (key, place, n) :: more => do
          let name ← key
          match HostKind.ofName? name with
          | none => throw (.ofData (.unknownVariant name HostKind.names) place)
          | some k =>
              match n with
              | .null _ stop =>
                  match more, tail with
                  | [], .closed _ => pure k
                  | [], .broken b =>
                      if b.read.cause = .defect .endInObject then throw b.read
                      else throw (.ofDefect .expectedValue stop)
                  | _, _ => throw (.ofDefect .expectedValue stop)
              | n => throw (n.mismatch "unit")
  | .broken _ b => .error b.read
  | n => .error (.ofDefect .expectedValue ⟨n.start.line, n.start.column + 1⟩)

def Shape.ofNode : (s : Shape) → Node → Except Fault s.Carrier
  | .text, n => Json.Reader.text n
  | .flag, n => Json.Reader.bool n
  | .port, n => (Json.Reader.integer 0 65535 "u16" n).map fun i => UInt16.ofNat i.toNat
  | .optionalText, n => Json.Reader.optional Json.Reader.text n
  | .texts, n => Json.Reader.list Json.Reader.text n
  | .hostKind, n => readKind n

/-- The context that a draft makes, with the missing setting as a fault. -/
def finish (d : Draft) (place : Position) : Except Fault Context :=
  match d.build with
  | .ok c => .ok c
  | .error f => .error (.ofData (.missingField f.key) place)

/-- Reads the members of an object and its end. -/
def readMembers (tail : Json.Tail) :
    Draft → List (Except Fault String × Position × Node) → Except Fault Context
  | d, [] =>
      match tail with
      | .closed stop => finish d stop
      | .broken b => .error b.read
  | d, (key, place, n) :: rest => do
      match Field.ofKey? (← key) with
      | none =>
          match n.skip with
          | some f => throw f
          | none => readMembers tail d rest
      | some f =>
          if d.has f then throw (.ofData (.duplicateField f.key) place)
          else
            let v ← Shape.ofNode f.shape n
            readMembers tail (d.put f v) rest

/-- What a list of settings is expected to be. -/
def expectedStruct : String := "struct Context with 17 elements"

/-- The defect that ends a list after all settings have been read. -/
def afterLast (f : Fault) : Fault :=
  if f.cause = .defect .trailingComma ∨ f.cause = .defect .endInList then f
  else .ofDefect .trailingCharacters f.position

/-- Reads the items of a list as the settings in order. Settings with a default may be left
out at the end. -/
def readItems (tail : Json.Tail) : List Field → Draft → List Node → Except Fault Context
  | [], d, [] =>
      match tail with
      | .closed stop => finish d stop
      | .broken b => .error (afterLast b.read)
  | [], _, n :: _ => .error (.ofDefect .trailingCharacters ⟨n.start.line, n.start.column + 1⟩)
  | f :: fields, d, [] =>
      match tail with
      | .broken b => .error b.read
      | .closed stop =>
          match d.build with
          | .ok c => .ok c
          | .error _ =>
              let length := Field.all.length - (f :: fields).length
              .error (.ofData (.invalidLength length expectedStruct) stop)
  | f :: fields, d, n :: rest => do
      let v ← Shape.ofNode f.shape n
      readItems tail fields (d.put f v) rest

def ofNode : Node → Except Fault Context
  | .object _ members tail => readMembers tail .empty members
  | .array _ items tail => readItems tail Field.all .empty items
  | n => .error (n.mismatch "struct Context")

def ofJson (v : Value) : Except Fault Context := ofNode v.toNode

def ofText (s : String) : Except Failure Context :=
  let document := Json.Document.ofChars s.toList
  match ofNode document.root with
  | .error f => .error (.json f)
  | .ok c =>
      match document.trailing with
      | none => .ok c
      | some f => .error (.json f)

end ComposeSite.Context
