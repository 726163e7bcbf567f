/-
# ComposeSite.Json.Decode -- reading parts of a document

A reader takes what it needs of an object's members in the order of the text and
skips the rest, so that of several faults the first one met is reported.
-/
import ComposeSite.Json.Node
import ComposeSite.Text.Quoted

set_option autoImplicit false

namespace ComposeSite.Json

/-- What a node is called where another value is expected. -/
def Node.unexpected : Node → String
  | .null .. => "null"
  | .bool b .. => "boolean `" ++ (if b then "true" else "false") ++ "`"
  | .number n .. =>
      match n.toWord? with
      | some i => "integer `" ++ toString i ++ "`"
      | none => "floating point `" ++ n.decimal.shown ++ "`"
  | .text (.ok s) .. => "string " ++ Text.quoted s
  | .text (.error _) .. => "string"
  | .array .. => "sequence"
  | .object .. => "map"
  | .broken .. => ""

/-- The place at which a node of the wrong type is reported: after a scalar, and before a
list or an object. -/
def Node.mismatchPlace : Node → Position
  | .null _ stop | .bool _ _ stop | .number _ _ stop | .text _ _ stop => stop
  | n => n.start

/-- The fault of a node that is not of the wanted type. -/
def Node.mismatch (n : Node) (expected : String) : Fault :=
  match n with
  | .broken _ b => b.read
  | .text (.error f) .. => f
  | .number value _ stop =>
      if value.decimal.overflows then .ofDefect .numberOutOfRange stop
      else .ofData (.invalidType n.unexpected expected) stop
  | _ => .ofData (.invalidType n.unexpected expected) n.mismatchPlace

abbrev Reader (α : Type) := Node → Except Fault α

namespace Reader

def text : Reader String
  | .text s _ _ => s
  | n => .error (n.mismatch "a string")

def bool : Reader Bool
  | .bool b _ _ => .ok b
  | n => .error (n.mismatch "a boolean")

/-- Reads a whole number that lies within bounds; `expected` names its type. -/
def integer (low high : Int) (expected : String) : Reader Int
  | .number n start stop =>
      match n.toWord? with
      | some i =>
          if low ≤ i ∧ i ≤ high then .ok i
          else .error (.ofData
            (.invalidValue (Node.number n start stop).unexpected expected) stop)
      | none => .error ((Node.number n start stop).mismatch expected)
  | n => .error (n.mismatch expected)

/-- Reads null as nothing. -/
def optional {α : Type} (read : Reader α) : Reader (Option α)
  | .null _ _ => .ok none
  | n => (read n).map some

def items {α : Type} (read : Reader α) (tail : Tail) : List Node → Except Fault (List α)
  | [] =>
      match tail with
      | .closed _ => .ok []
      | .broken b => .error b.read
  | n :: rest => do
      let a ← read n
      let more ← items read tail rest
      pure (a :: more)

def list {α : Type} (read : Reader α) : Reader (List α)
  | .array _ nodes tail => items read tail nodes
  | n => .error (n.mismatch "a sequence")

/-- Reads the members of an object and its end into a state: a member that `step` does not
know is skipped. -/
def members {σ : Type} (step : String → Option (σ → Reader σ)) (tail : Tail) :
    σ → List (Except Fault String × Position × Node) → Except Fault σ
  | s, [] =>
      match tail with
      | .closed _ => .ok s
      | .broken b => .error b.read
  | s, (key, _, n) :: rest => do
      match step (← key) with
      | some read =>
          let s ← read s n
          members step tail s rest
      | none =>
          match n.skip with
          | some f => throw f
          | none => members step tail s rest

def object {σ : Type} (expected : String) (start : σ) (step : String → Option (σ → Reader σ)) :
    Reader σ
  | .object _ nodes tail => members step tail start nodes
  | n => .error (n.mismatch expected)

/-- Reads one member of an object, if it is there; the last of several counts. -/
def member {α : Type} (expected key : String) (read : Reader α) : Reader (Option α) :=
  object expected none fun k => if k = key then some (fun _ n => (read n).map some) else none

def endPlace : Node → Position
  | .object _ _ (.closed stop) => stop
  | n => n.start

/-- Reads one member of an object that must be there. -/
def required {α : Type} (expected key : String) (read : Reader α) : Reader α := fun n => do
  match ← member expected key read n with
  | some a => pure a
  | none => throw (.ofData (.missingField key) (endPlace n))

/-- Reads an object as a table. -/
def table {α : Type} (read : Reader α) : Reader (List (String × α)) :=
  fun n => (object "a map" ([] : List (String × α)) (fun key => some fun entries n => do
    let a ← read n
    pure (entries ++ [(key, a)])) n)

/-- Reads a whole text: the value, and that nothing follows it. -/
def run {α : Type} (read : Reader α) (s : List Char) : Except Fault α :=
  let document := Document.ofChars s
  match read document.root with
  | .error f => .error f
  | .ok a =>
      match document.trailing with
      | none => .ok a
      | some f => .error f

end Reader

end ComposeSite.Json
