/-
# ComposeSite.Ssh.KnownHosts -- which keys hosts are known by

Each line names hosts and one key.  A host is named as it is, with its port, or by a
keyed digest.  Among the keys listed for a host, one of the presented key's algorithm
that is another key means that the key has changed; otherwise the presented key must
be among them.
-/
import ComposeSite.Crypto.Hmac
import ComposeSite.Crypto.Sha1
import ComposeSite.Host.FileTree
import ComposeSite.Ssh.PublicKey
import ComposeSite.Text.Split

set_option autoImplicit false

namespace ComposeSite.Ssh

/-- What is known about a presented key. -/
inductive KeyStatus where
  | matching
  | unknown
  | changed (line : Nat)
  deriving DecidableEq, Repr

namespace KnownHosts

/-- How a host is named in the list: with its port unless that is the usual one. -/
def hostName (host : String) (port : Nat) : String :=
  if port = 22 then host else s!"[{host}]:{port}"

def digestMark : List Char := "|1|".toList

/-- Whether one name of a line is that of a host. -/
def nameMatches (host : String) (name : List Char) : Bool :=
  if digestMark.isPrefixOf name then
    match (Text.split '|' name).drop 2 with
    | salt :: digest :: _ =>
        match Base64.decode salt, Base64.decode digest with
        | .ok salt, .ok digest =>
            Crypto.hmac Crypto.sha1 salt (Text.Utf8.encode host) == digest
        | _, _ => false
    | _ => false
  else host.toList == name

/-- Whether the names of a line include a host. -/
def namesMatch (host : String) (names : List Char) : Bool :=
  (Text.split ',' names).any (nameMatches host)

/-- A key that the list gives for a host, with the number of its line. -/
structure Entry where
  line : Nat
  key : PublicKey
  deriving DecidableEq, Repr

/-- The lines of octets, each with its end; none for what follows the last line end if it is
empty. -/
def octetLines (bs : Bytes) : List Bytes :=
  let parts := Text.split 10 bs
  (parts.dropLast.map (· ++ [10])) ++ (parts.getLast?.filter (· ≠ [])).toList

/-- The keys listed for a host. Lines that are remarks do not count as lines. -/
def entriesFrom (host : String) : Nat → List Bytes → Except KeyFailure (List Entry)
  | _, [] => .ok []
  | number, bs :: rest =>
      match Text.Utf8.decode? bs with
      | none => .error (.file .notText)
      | some line =>
          if line.toList.head? = some '#' then entriesFrom host number rest
          else
            match Text.split ' ' line.toList with
            | names :: _ :: key :: _ =>
                if namesMatch host names then do
                  let key ← PublicKey.ofBase64 key
                  let more ← entriesFrom host (number + 1) rest
                  pure (⟨number, key⟩ :: more)
                else entriesFrom host (number + 1) rest
            | _ => entriesFrom host (number + 1) rest

def entries (host : String) (port : Nat) (content : Bytes) : Except KeyFailure (List Entry) :=
  entriesFrom (hostName host port) 1 (octetLines content)

/-- What the listed keys say about a presented one. -/
def classify (key : PublicKey) (listed : List Entry) : KeyStatus :=
  match listed.find? fun e => e.key.algorithm = key.algorithm ∧ e.key ≠ key with
  | some e => .changed e.line
  | none => if listed.any fun e => e.key = key then .matching else .unknown

def status (host : String) (port : Nat) (key : PublicKey) (content : Bytes) :
    Except KeyFailure KeyStatus :=
  (entries host port content).map (classify key)

/-- What the list at a path says about a presented key; without a list every host is
unknown. -/
def verify (files : Host.FileTree) (host : String) (port : Nat) (key : PublicKey)
    (path : String) : Except KeyFailure KeyStatus :=
  match files.resolve path with
  | .error _ => .ok .unknown
  | .ok (_, .file content _) => status host port key content
  | .ok (_, .directory) => .error (.file .isDirectory)
  | .ok (_, .socket) => .ok .unknown

end KnownHosts

end ComposeSite.Ssh
