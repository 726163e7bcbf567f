/-
# ComposeSite.Yaml.Parser -- from tokens to a document

The parser follows the grammar by one token of foresight.  The first fault ends the
reading: from then on no token is seen, every collection ends in a broken node, and the
fault stays.
-/
import ComposeSite.Yaml.Node
import ComposeSite.Yaml.Scanner

set_option autoImplicit false

namespace ComposeSite.Yaml

/-- The tokens that are left and why they end, the handles of tags, the anchors by name and
the nodes that have one, and what is wrong. -/
structure Parser where
  tokens : List Token
  problem : Option Problem
  handles : List (String × String) := []
  names : List (String × Nat) := []
  anchored : List (Nat × Node) := []
  fault : Option Fault := none

abbrev Parse (α : Type) := StateM Parser α

namespace Parse

def peek : Parse (Option Token) := fun p =>
  match p.fault, p.tokens with
  | some _, _ => (none, p)
  | none, t :: _ => (some t, p)
  | none, [] =>
      let fault : Fault := (p.problem.map Fault.problem).getD .nothing
      (none, { p with fault := some fault })

def skip : Parse Unit := modify fun p => { p with tokens := p.tokens.drop 1 }

def skipTo : Parse (Option Token) := do
  skip
  peek

def fail (f : Fault) : Parse Node := fun p =>
  (.broken, { p with fault := some (p.fault.getD f) })

/-- What is wrong with a token, within something that started elsewhere. -/
def unexpected (within : String) (since : Mark) (text : String) (t : Token) : Parse Node :=
  fail (.problem { text, mark := t.start, within := some (within, since) })

/-! ## Properties of nodes -/

/-- The anchor and the tag of a node, and where it starts. -/
structure Properties where
  start : Mark
  anchor : Option String := none
  tag : Option (String × String × Mark) := none

namespace Properties

/-- Adds a property that is not there yet. -/
def add? (p : Properties) (t : Token) : Option Properties :=
  match t.lexeme, p.anchor, p.tag with
  | .anchor name, none, _ => some { p with anchor := some name }
  | .tag handle suffix, _, none => some { p with tag := some (handle, suffix, t.start) }
  | _, _, _ => none

def any (p : Properties) : Bool := p.anchor.isSome || p.tag.isSome

end Properties

/-- Reads the properties of a node, in either order, and the token after them. -/
def properties (t : Token) : Parse (Properties × Option Token) := do
  let p : Properties := { start := t.start }
  match p.add? t with
  | none => pure (p, some t)
  | some p =>
      match ← skipTo with
      | none => pure (p, none)
      | some t =>
          match p.add? t with
          | none => pure (p, some t)
          | some p => do
              let next ← skipTo
              pure (p, next)

/-- What the tag among some properties stands for, or that its handle is not known. -/
def fullTag (p : Properties) : Parse (Except Fault (Option String)) := do
  match p.tag with
  | none => pure (.ok none)
  | some (handle, suffix, mark) =>
      if handle.isEmpty then pure (.ok (some suffix))
      else
        match (← get).handles.lookup handle with
        | some start => pure (.ok (some (start ++ suffix)))
        | none =>
            pure (.error (.problem
              { text := "found undefined tag handle", mark,
                within := some ("while parsing a node", p.start) }))

/-- Gives a node that is about to be read its anchor. -/
def define (anchor : Option String) : Parse (Option Nat) := fun p =>
  match anchor with
  | none => (none, p)
  | some name =>
      let id := p.names.length
      (some id, { p with names := (name, id) :: p.names })

def keep (id : Option Nat) (n : Node) : Parse Node := fun p =>
  match id with
  | none => (n, p)
  | some id => (n, { p with anchored := (id, n) :: p.anchored })

/-! ## Nodes -/

/-- Whether an entry of a block has nothing after its indicator. -/
def isBlankEntry : Lexeme → Bool
  | .blockEntry | .blockEnd => true
  | _ => false

/-- Whether a key or value of a block has nothing after its indicator. -/
def isBlankMember : Lexeme → Bool
  | .key | .value | .blockEnd => true
  | _ => false

def isBlankFlow (ending : Lexeme) (l : Lexeme) : Bool := l = .flowEntry || l = ending

mutual

/-- Reads a node. In a block it may be a block collection, and after a key a sequence that
is not indented. -/
def node : Nat → (block afterKey : Bool) → Parse Node
  | 0, _, _ => fail .nothing
  | fuel + 1, block, afterKey => do
      let some t ← peek | pure .broken
      match t.lexeme with
      | .aliasOf name => do
          skip
          match (← get).names.lookup name with
          | some id => pure (.reference t.start id)
          | none => fail (.unknownAnchor t.start)
      | _ => do
          let (p, next) ← properties t
          let some t := next | pure .broken
          match ← fullTag p with
          | .error f => fail f
          | .ok tag =>
              match block, t.lexeme with
              | _, .scalar text style => do
                  skip
                  let id ← define p.anchor
                  keep id (.scalar p.start (tag.filter (· ≠ "!")) style text)
              | _, .flowSequenceStart => do
                  skip
                  let id ← define p.anchor
                  let items ← flowItems fuel true t.start
                  keep id (.sequence p.start tag items)
              | _, .flowMappingStart => do
                  skip
                  let id ← define p.anchor
                  let members ← flowMembers fuel true t.start
                  keep id (.mapping p.start tag members)
              | true, .blockSequenceStart => do
                  skip
                  let id ← define p.anchor
                  let items ← blockItems fuel t.start
                  keep id (.sequence p.start tag items)
              | true, .blockMappingStart => do
                  skip
                  let id ← define p.anchor
                  let members ← blockMembers fuel t.start
                  keep id (.mapping p.start tag members)
              | _, l =>
                  if afterKey && l = .blockEntry then do
                    let id ← define p.anchor
                    let items ← looseItems fuel
                    keep id (.sequence p.start tag items)
                  else if p.any then do
                    let id ← define p.anchor
                    keep id (.scalar p.start tag .plain "")
                  else
                    unexpected
                      (if block then "while parsing a block node"
                        else "while parsing a flow node")
                      p.start "did not find expected node content" t

def blockItems : Nat → Mark → Parse (List Node)
  | 0, _ => List.singleton <$> fail .nothing
  | fuel + 1, since => do
      let some t ← peek | pure [.broken]
      match t.lexeme with
      | .blockEntry => do
          let some next ← skipTo | pure [.broken]
          let item ← if isBlankEntry next.lexeme then pure (.blank t.stop)
            else node fuel true false
          let rest ← blockItems fuel since
          pure (item :: rest)
      | .blockEnd => do
          skip
          pure []
      | _ =>
          List.singleton <$> unexpected "while parsing a block collection" since
            "did not find expected '-' indicator" t

/-- Reads the items of a sequence that is not indented. -/
def looseItems : Nat → Parse (List Node)
  | 0 => List.singleton <$> fail .nothing
  | fuel + 1 => do
      let some t ← peek | pure [.broken]
      match t.lexeme with
      | .blockEntry => do
          let some next ← skipTo | pure [.broken]
          let item ←
            if isBlankEntry next.lexeme || isBlankMember next.lexeme then pure (.blank t.stop)
            else node fuel true false
          let rest ← looseItems fuel
          pure (item :: rest)
      | _ => pure []

def blockMembers : Nat → Mark → Parse (List (Node × Node))
  | 0, _ => do
      let n ← fail .nothing
      pure [(n, n)]
  | fuel + 1, since => do
      let some t ← peek | pure [(.broken, .broken)]
      match t.lexeme with
      | .key => do
          let some next ← skipTo | pure [(.broken, .broken)]
          let key ← if isBlankMember next.lexeme then pure (.blank t.stop)
            else node fuel true true
          let value ← blockValue fuel
          let rest ← blockMembers fuel since
          pure ((key, value) :: rest)
      | .blockEnd => do
          skip
          pure []
      | _ => do
          let n ← unexpected "while parsing a block mapping" since
            "did not find expected key" t
          pure [(n, n)]

def blockValue : Nat → Parse Node
  | 0 => fail .nothing
  | fuel + 1 => do
      let some t ← peek | pure .broken
      match t.lexeme with
      | .value => do
          let some next ← skipTo | pure .broken
          if isBlankMember next.lexeme then pure (.blank t.stop) else node fuel true true
      | _ => pure (.blank t.start)

def flowItems : Nat → (first : Bool) → Mark → Parse (List Node)
  | 0, _, _ => List.singleton <$> fail .nothing
  | fuel + 1, first, since => do
      let some t ← peek | pure [.broken]
      if !first && t.lexeme ≠ .flowSequenceEnd && t.lexeme ≠ .flowEntry then
        List.singleton <$> unexpected "while parsing a flow sequence" since
          "did not find expected ',' or ']'" t
      else do
        let next ← if !first && t.lexeme = .flowEntry then skipTo else pure (some t)
        let some t := next | pure [.broken]
        match t.lexeme with
        | .flowSequenceEnd => do
            skip
            pure []
        | .key => do
            skip
            let key ← pairKey fuel
            let value ← flowValue fuel .flowSequenceEnd
            let rest ← flowItems fuel false since
            pure (.mapping t.start none [(key, value)] :: rest)
        | _ => do
            let item ← node fuel false false
            let rest ← flowItems fuel false since
            pure (item :: rest)

/-- Reads the key of a pair in a flow sequence. Where there is none, the token in its place
is lost. -/
def pairKey : Nat → Parse Node
  | 0 => fail .nothing
  | fuel + 1 => do
      let some t ← peek | pure .broken
      if t.lexeme = .value || isBlankFlow .flowSequenceEnd t.lexeme then do
        skip
        pure (.blank t.stop)
      else node fuel false false

def flowValue : Nat → (ending : Lexeme) → Parse Node
  | 0, _ => fail .nothing
  | fuel + 1, ending => do
      let some t ← peek | pure .broken
      match t.lexeme with
      | .value => do
          let some next ← skipTo | pure .broken
          if isBlankFlow ending next.lexeme then pure (.blank next.start)
          else node fuel false false
      | _ => pure (.blank t.start)

def flowMembers : Nat → (first : Bool) → Mark → Parse (List (Node × Node))
  | 0, _, _ => do
      let n ← fail .nothing
      pure [(n, n)]
  | fuel + 1, first, since => do
      let some t ← peek | pure [(.broken, .broken)]
      if !first && t.lexeme ≠ .flowMappingEnd && t.lexeme ≠ .flowEntry then do
        let n ← unexpected "while parsing a flow mapping" since
          "did not find expected ',' or '\x7d'" t
        pure [(n, n)]
      else do
        let next ← if !first && t.lexeme = .flowEntry then skipTo else pure (some t)
        let some t := next | pure [(.broken, .broken)]
        match t.lexeme with
        | .flowMappingEnd => do
            skip
            pure []
        | .key => do
            let some next ← skipTo | pure [(.broken, .broken)]
            let key ←
              if next.lexeme = .value || isBlankFlow .flowMappingEnd next.lexeme then
                pure (.blank next.start)
              else node fuel false false
            let value ← flowValue fuel .flowMappingEnd
            let rest ← flowMembers fuel false since
            pure ((key, value) :: rest)
        | _ => do
            let key ← node fuel false false
            let after ← peek
            let value : Node := match after with
              | some t => .blank t.start
              | none => .broken
            let rest ← flowMembers fuel false since
            pure ((key, value) :: rest)

end

/-! ## Documents -/

/-- The handles that need no directive. -/
def usualHandles : List (String × String) := [("!", "!"), ("!!", "tag:yaml.org,2002:")]

def wrong (text : String) (t : Token) : Parse Unit := do
  let _ ← fail (.problem { text, mark := t.start })

def directives : Nat → (hasVersion : Bool) → Parse Unit
  | 0, _ => pure ()
  | fuel + 1, hasVersion => do
      let some t ← peek | pure ()
      match t.lexeme with
      | .version major minor =>
          if hasVersion then wrong "found duplicate %YAML directive" t
          else if major ≠ 1 || (minor ≠ 1 && minor ≠ 2) then
            wrong "found incompatible YAML document" t
          else do
            skip
            directives fuel true
      | .tagDirective handle start => do
          if ((← get).handles.lookup handle).isSome then
            wrong "found duplicate %TAG directive" t
          else do
            modify fun p => { p with handles := p.handles ++ [(handle, start)] }
            skip
            directives fuel hasVersion
      | _ => modify fun p => { p with handles := p.handles ++ usualHandles }

/-- Whether a document without a mark of its start has ended before it began. -/
def isAfterDocument : Lexeme → Bool
  | .version .. | .tagDirective .. | .documentStart | .documentEnd | .streamEnd => true
  | _ => false

/-- Reads the first document, without its end. -/
def document (fuel : Nat) : Parse Node := do
  let some t ← peek | pure .broken
  match t.lexeme with
  | .streamEnd => pure .void
  | .version .. | .tagDirective .. | .documentStart => do
      directives fuel false
      let some t ← peek | pure .broken
      if t.lexeme ≠ .documentStart then
        fail (.problem { text := "did not find expected <document start>", mark := t.start })
      else do
        let some t ← skipTo | pure .broken
        if isAfterDocument t.lexeme then pure (.blank t.start) else node fuel true false
  | _ => do
      directives fuel false
      node fuel true false

/-- Goes over marks of the end of a document and tells whether more than those follows. -/
def more : Nat → Parse Bool
  | 0 => pure true
  | fuel + 1 => do
      let some t ← peek | pure true
      match t.lexeme with
      | .documentEnd => do
          skip
          more fuel
      | .streamEnd => pure false
      | _ => pure true

end Parse

def Document.ofChars (cs : List Char) : Document :=
  let (tokens, problem) := Yaml.tokens cs
  let fuel := 4 * tokens.length + 8
  let start : Parser := { tokens, problem }
  let (root, p) := (do
    let _ ← Parse.peek
    Parse.skip
    Parse.document fuel : Parse Node).run start
  -- the end of the document is looked for, which may show that something is wrong
  let (_, p) := Parse.peek.run p
  let (hasMore, _) := (Parse.more fuel).run p
  { root, anchored := p.anchored, fault := p.fault, hasMore }

end ComposeSite.Yaml
