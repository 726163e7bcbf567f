/-
# ComposeSite.Yaml.Decode -- reading YAML into values

A reader sees a node and the way to it.  A fault is given the place of the innermost
reader that has one.  A text that makes no sense is read as far as it goes, and what is
wrong with the data before that comes first.
-/
import ComposeSite.Yaml.Core
import ComposeSite.Yaml.Parser

set_option autoImplicit false

namespace ComposeSite.Yaml

namespace Document

/-- What a broken node stands for. -/
def brokenness (d : Document) : Fault := d.fault.getD .nothing

def resolve (d : Document) : Node → Node
  | .reference _ id => (d.anchored.lookup id).getD .broken
  | n => n

end Document

abbrev Reader (α : Type) := Document → Way → Node → Except Fault α

namespace Reader

variable {α σ : Type}

def unplaced (f : DataFault) : Fault := .data f none

/-- What is wrong with a node that should have been something else. -/
def mismatch (d : Document) (expected : String) : Node → Fault
  | .scalar _ tag style s => unplaced (scalarMismatch tag style s expected)
  | .sequence .. => unplaced (.invalidType "sequence" expected)
  | .mapping .. => unplaced (.invalidType "map" expected)
  | .void => .nothing
  | .reference .. | .broken => d.brokenness

def markOf : Node → Mark
  | .scalar m .. | .sequence m .. | .mapping m .. | .reference m _ => m
  | .void | .broken => {}

/-- Reads the node that a node stands for, which is the place of faults without one. -/
def placed (read : Reader α) : Reader α := fun d way n =>
  let n := d.resolve n
  (read d way n).mapError (·.settle way (markOf n))

/-- Reads any scalar as its text. -/
def text : Reader String := placed fun d _ n =>
  match n with
  | .scalar _ _ _ s => .ok s
  | n => .error (mismatch d "a string" n)

/-- Whether a scalar may be read as a kind of value: a plain one, and a literal one with the
tag of the kind. -/
def mayBe (kind : String) (tag : Option String) (style : Style) : Bool :=
  style = .plain || (style = .literal && tag = some (coreTag kind))

def bool : Reader Bool := placed fun d _ n =>
  let refusal := mismatch d "a boolean" n
  match n with
  | .scalar _ tag style s =>
      match (truth? s).filter fun _ => mayBe "bool" tag style with
      | some b => .ok b
      | none => .error refusal
  | _ => .error refusal

def port : Reader UInt16 := placed fun d _ n =>
  let refusal := mismatch d "u16" n
  match n with
  | .scalar _ tag style s =>
      match (unsigned? Text.Numeral.max64 s.toList).filter fun _ => mayBe "int" tag style with
      | some i =>
          if i ≤ Text.Numeral.max16 then .ok (UInt16.ofNat i)
          else .error (unplaced (.invalidValue s!"integer `{i}`" "u16"))
      | none => .error refusal
  | _ => .error refusal

/-- Whether a node is a plain scalar without text, or not there at all. -/
def isEmpty : Node → Bool
  | .scalar _ _ .plain "" => true
  | .void => true
  | _ => false

/-- Reads a value, or nothing where nothing is spelt. -/
def optional (read : Reader α) : Reader (Option α) := fun d way n =>
  match d.resolve n with
  | .scalar _ (some tag) .plain s =>
      if tag = coreTag "null" then
        if isNull s then .ok none
        else .error (unplaced (.invalidValue (shownText s) "null"))
      else (read d way n).map some
  | .scalar _ none .plain s =>
      if s.isEmpty || isNull s then .ok none else (read d way n).map some
  | .void => .ok none
  | _ => (read d way n).map some

def items (read : Reader α) (d : Document) (way : Way) :
    Nat → List Node → Except Fault (List α)
  | _, [] => .ok []
  | i, n :: rest => do
      let a ← read d (.item i :: way) n
      let more ← items read d way (i + 1) rest
      pure (a :: more)

def list (read : Reader α) : Reader (List α) := placed fun d way n =>
  match n with
  | .sequence _ _ nodes => items read d way 0 nodes
  | n => if isEmpty n then .ok [] else .error (mismatch d "a sequence" n)

def step : Node → Segment
  | .scalar _ _ _ s => .member s
  | _ => .unknown

def key : Reader String := placed fun d _ n =>
  match n with
  | .scalar _ _ _ s => .ok s
  | n => .error (mismatch d "field identifier" n)

/-- Reads the members of a mapping into a state. A member that the state does not know is
skipped. -/
def members (known : σ → String → Option (Reader σ)) (d : Document) (way : Way) :
    σ → List (Node × Node) → Except Fault σ
  | s, [] => .ok s
  | s, (k, v) :: rest => do
      let name ← key d way k
      match known s name with
      | some read => do
          let s ← read d (step k :: way) v
          members known d way s rest
      | none =>
          if v.isBroken then throw d.brokenness
          else members known d way s rest

/-- Reads a mapping into a state, from which the value is made in the end. -/
def struct (expected : String) (start : σ) (known : σ → String → Option (Reader σ))
    (finish : σ → Except DataFault α) : Reader α := placed fun d way n => do
  let s ← match n with
    | .mapping _ _ nodes => members known d way start nodes
    | n => if isEmpty n then .ok start else .error (mismatch d expected n)
  (finish s).mapError unplaced

def refuse (f : DataFault) : Reader α := fun _ _ _ => .error (unplaced f)

/-- Reads the content of a node whose tag has said everything. -/
def nothing : Reader Unit := placed fun d _ n =>
  match n with
  | .scalar _ _ style s =>
      if style = .plain && (s.isEmpty || isNull s) then .ok ()
      else .error (unplaced (.invalidValue (shownText s) "null"))
  | .void => .ok ()
  | n => .error (mismatch d "unit" n)

/-- Reads one of some names, which is a scalar or the tag of a node without content. -/
def oneOf (known : List String) (ofName? : String → Option α) : Reader α := placed fun d way n => do
  let named (name : String) : Except Fault α :=
    match ofName? name with
    | some a => .ok a
    | none => .error (unplaced (.unknownVariant name known))
  let tagged (tag : Option String) (otherwise : Except Fault α) : Except Fault α :=
    match ownTag? tag with
    | some name => do
        let a ← named name
        nothing d way n
        pure a
    | none => otherwise
  match n with
  | .scalar _ tag _ s => tagged tag (named s)
  | .sequence _ tag _ | .mapping _ tag _ =>
      tagged tag (.error (mismatch d "a YAML tag starting with '!'" n))
  | n => throw (mismatch d "a YAML tag starting with '!'" n)

/-- Reads a text that holds a single document. -/
def run (read : Reader α) (s : String) : Except Fault α := do
  let d := Document.ofChars s.toList
  let a ← read d [] d.root
  match d.fault with
  | some f => throw f
  | none => if d.hasMore then throw .severalDocuments else pure a

end Reader

end ComposeSite.Yaml
