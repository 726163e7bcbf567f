/-
# ComposeSite.Compose.Variables -- looking up declared variables

A variable is declared as a name and a value around the first equals sign; an
entry without one declares nothing, and the first declaration of a name counts.
-/
import ComposeSite.Text.Split

set_option autoImplicit false

namespace ComposeSite.Compose

/-- The name and value that an entry declares. -/
def declaration? (entry : String) : Option (String × String) :=
  (Text.splitOnce? '=' entry.toList).map fun (name, value) =>
    (String.ofList name, String.ofList value)

/-- The value of the first declaration of a name. -/
def lookupVariable (entries : List String) (name : String) : Option String :=
  (entries.filterMap declaration?).lookup name

end ComposeSite.Compose
