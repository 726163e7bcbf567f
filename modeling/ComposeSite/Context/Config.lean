/-
# ComposeSite.Context.Config -- the contexts that a user has

The configuration lists contexts and names the current one.  A context is looked up
without regard to the case of ASCII letters, and one that cannot be used is refused.
-/
import ComposeSite.Act
import ComposeSite.Context.Validation
import ComposeSite.Yaml.Decode

set_option autoImplicit false

namespace ComposeSite

/-- Contexts, and the name of the current one. -/
structure Config where
  current : String := ""
  contexts : List Context := []
  deriving DecidableEq, Repr

namespace Context

open Yaml (Reader)

def Shape.ofYaml : (s : Shape) → Reader s.Carrier
  | .text => Reader.text
  | .flag => Reader.bool
  | .port => Reader.port
  | .optionalText => Reader.optional Reader.text
  | .texts => Reader.list Reader.text
  | .hostKind => Reader.oneOf HostKind.names HostKind.ofName?

def readSetting (d : Draft) (name : String) : Option (Reader Draft) :=
  (Field.ofKey? name).map fun f =>
    if d.has f then Reader.refuse (.duplicateField f.key)
    else fun document way n => (f.shape.ofYaml document way n).map (d.put f)

def ofYaml : Reader Context :=
  Reader.struct "struct Context" Draft.empty readSetting fun d =>
    d.build.mapError fun f => .missingField f.key

end Context

namespace Config

open Yaml (Reader)

/-! ## Reading -/

/-- A configuration of which some parts are given. -/
structure Draft where
  current : Option String := none
  contexts : Option (List Context) := none

def readPart (d : Draft) (name : String) : Option (Reader Draft) :=
  if name = "current-context" then
    some (if d.current.isSome then Reader.refuse (.duplicateField name)
      else fun document way n =>
        (Reader.text document way n).map fun s => { d with current := some s })
  else if name = "contexts" then
    some (if d.contexts.isSome then Reader.refuse (.duplicateField name)
      else fun document way n =>
        (Reader.list Context.ofYaml document way n).map fun cs => { d with contexts := some cs })
  else none

def ofYaml : Reader Config :=
  Reader.struct "struct Config" {} readPart fun d =>
    .ok ⟨d.current.getD "", d.contexts.getD []⟩

def ofText (path text : String) : Except Failure Config :=
  (Reader.run ofYaml text).mapError fun f => .config (.malformed path f.message)

def path (home : String) : String := Path.join (Path.join home ".sitectl") "config.yaml"

def loadFrom (path : String) : Act Config := .examine fun w =>
  if !w.files.contains path then .error (.config (.missingFile path))
  else
    match w.files.readText path with
    | .error f => .error (.fileRead path f)
    | .ok text => ofText path text

def load : Act Config := do
  let home ← Act.home
  loadFrom (path home)

/-! ## Looking up a context -/

/-- The name that a request stands for: none, the empty one and `default` stand for the
current context. -/
def wanted (config : Config) (request : Option String) : String :=
  match request with
  | none | some "" | some "default" => config.current
  | some name => name

/-- Whether two texts are the same but for the case of ASCII letters. -/
def sameName (a b : String) : Bool :=
  a.toList.map Char.toLower = b.toList.map Char.toLower

def find? (config : Config) (name : String) : Option Context :=
  config.contexts.find? fun c => sameName c.name name

/-- The context that is asked for, which can be used. -/
def context (config : Config) (home : String) (request : Option String) :
    Except Failure Context := do
  let name := config.wanted request
  if name.isEmpty then throw (.config .noCurrentContext)
  match config.find? name with
  | none => throw (.config (.unknownContext name))
  | some c => do
      c.validate home
      pure c

end Config

end ComposeSite
