/-
# ComposeSite.Environment -- the variables a process starts with
-/

set_option autoImplicit false

namespace ComposeSite

/-- Variables and their values; of several entries for one name the first counts. -/
structure Environment where
  entries : List (String × String)
  deriving Repr

namespace Environment

def get? (e : Environment) (name : String) : Option String :=
  e.entries.lookup name

/-- Where the account's files are when no variable says so. -/
def accountHome : String := "/root"

def home (e : Environment) : String :=
  match e.get? "HOME" with
  | some h => if h.isEmpty then accountHome else h
  | none => accountHome

end Environment

end ComposeSite
