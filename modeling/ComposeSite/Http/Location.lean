/-
# ComposeSite.Http.Location -- where a request goes

The target of a request is put together as text and then read as the path of a
URL: a question mark starts the query, a hash sign ends both, single dots go
away, double dots take the name before them along, and percent signs spell
octets.  Names are usually free of all that and come out as they went in.
-/
import ComposeSite.Bytes
import ComposeSite.Text.Split
import ComposeSite.Text.Utf8

set_option autoImplicit false

namespace ComposeSite.Http

/-- The path and query of a request's target, with octets spelled by percent signs read. -/
structure Location where
  path : String
  query : List String
  deriving DecidableEq, Repr

namespace Location

def percentOctets : List Char → Bytes
  | [] => []
  | '%' :: h :: l :: rest =>
      match Hex.value? h, Hex.value? l with
      | some h, some l => UInt8.ofNat (16 * h + l) :: percentOctets rest
      | _, _ => Text.Utf8.encodeChars ['%'] ++ percentOctets (h :: l :: rest)
  | c :: rest => String.utf8EncodeChar c ++ percentOctets rest
termination_by cs => cs.length

/-- The text that percent signs spell. -/
def percentDecode (cs : List Char) : String := Text.Utf8.decodeLossy (percentOctets cs)

/-- Whether a segment stands for the directory itself. -/
def isDot (s : List Char) : Bool :=
  s = ['.'] || (String.ofList s).toLower = "%2e"

/-- Whether a segment stands for the directory above. -/
def isDoubleDot (s : List Char) : Bool :=
  ["..", ".%2e", "%2e.", "%2e%2e"].contains (String.ofList s).toLower

/-- Removes dot segments; the segments so far are given backwards. -/
def resolveDots : List (List Char) → List (List Char) → List (List Char)
  | soFar, [] => soFar.reverse
  | soFar, [s] =>
      if isDoubleDot s then ([] :: soFar.drop 1).reverse
      else if isDot s then ([] :: soFar).reverse
      else (s :: soFar).reverse
  | soFar, s :: rest =>
      if isDoubleDot s then resolveDots (soFar.drop 1) rest
      else if isDot s then resolveDots soFar rest
      else resolveDots (s :: soFar) rest

/-- Reads a target that starts with a slash. -/
def ofTarget (target : String) : Location :=
  let cs := target.toList.filter fun c => c ≠ '\t' && c ≠ '\n' && c ≠ '\r'
  let beforeHash := cs.takeWhile (· ≠ '#')
  let path := beforeHash.takeWhile (· ≠ '?')
  let query := (beforeHash.dropWhile (· ≠ '?')).drop 1
  let segments := resolveDots [] (Text.split '/' (path.drop 1))
  ⟨percentDecode ('/' :: Text.join '/' segments),
    if query.isEmpty then [] else (Text.split '&' query).map percentDecode⟩

end Location

end ComposeSite.Http
