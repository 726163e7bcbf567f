/-
# ComposeSite.Yaml.Node -- what a YAML text says

A document is a tree of scalars, sequences and mappings, in which a reference stands for a
node that has been given an anchor.  Where a text stops making sense, the tree ends in
broken nodes, so that everything before them can still be read.
-/
import ComposeSite.Yaml.Fault
import ComposeSite.Yaml.Token

set_option autoImplicit false

namespace ComposeSite.Yaml

inductive Node where
  | scalar (mark : Mark) (tag : Option String) (style : Style) (text : String)
  | sequence (mark : Mark) (tag : Option String) (items : List Node)
  | mapping (mark : Mark) (tag : Option String) (members : List (Node × Node))
  | reference (mark : Mark) (anchor : Nat)
  | void
  | broken
  deriving Repr, Inhabited

mutual

/-- Whether a node is broken or has a broken part. -/
def Node.isBroken : Node → Bool
  | .sequence _ _ items => anyBroken items
  | .mapping _ _ members => anyMemberBroken members
  | .broken => true
  | _ => false

def anyBroken : List Node → Bool
  | [] => false
  | n :: rest => n.isBroken || anyBroken rest

def anyMemberBroken : List (Node × Node) → Bool
  | [] => false
  | (key, value) :: rest => key.isBroken || value.isBroken || anyMemberBroken rest

end

/-- The scalar that stands where nothing is written. -/
def Node.blank (mark : Mark) : Node := .scalar mark none .plain ""

/-- What a text says first: its first document, the nodes that have anchors, what is wrong
with the text, and whether there is more than this document. -/
structure Document where
  root : Node
  anchored : List (Nat × Node)
  fault : Option Fault
  hasMore : Bool
  deriving Repr

end ComposeSite.Yaml
