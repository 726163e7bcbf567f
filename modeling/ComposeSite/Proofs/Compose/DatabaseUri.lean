/-
# ComposeSite.Proofs.Compose.DatabaseUri -- what database clients make of their addresses

A client takes the URI of a database apart where separators stand in it (`Pieces.take?`), and
only then reads percent signs in the pieces.  The URI is put together from texts as they are, so
they come out of it exactly if no separator stands in them and nothing in them is escaped
(`Legible`, `take?_databasePieces`): otherwise a client ends a piece too early, or makes fewer
octets of it (`read_piece`).

The parameters of a tunnel are between ampersands, and come out of it exactly if no ampersand
stands in them (`readParameters_eq_some`).  Both together are what becomes of the addresses of a
database whenever they are given (`databaseUris_read`).
-/
import ComposeSite.Proofs.Compose.Secret
import ComposeSite.Proofs.Http.Location

set_option autoImplicit false

namespace ComposeSite

/-! ## Separators -/

namespace Text

variable {α : Type}

/-- A text that is cut at its first separator and at any other one is cut twice at the same, or
the first cut lies inside the part before the other. -/
theorem cut_cases {separator : α} {before before' after after' : List α}
    (same : before ++ separator :: after = before' ++ separator :: after')
    (first : separator ∉ before) :
    before = before' ∧ after = after' ∨ ∃ more, before' = before ++ separator :: more := by
  rcases List.append_eq_append_iff.mp same with ⟨more, longer, rest⟩ | ⟨more, longer, rest⟩
  · cases more with
    | nil => exact .inl ⟨by rw [longer, List.append_nil], (List.cons.inj rest).2⟩
    | cons a more =>
        obtain ⟨rfl, -⟩ := List.cons.inj rest
        exact .inr ⟨more, longer⟩
  · cases more with
    | nil => exact .inl ⟨by rw [longer, List.append_nil], (List.cons.inj rest).2.symm⟩
    | cons a more =>
        obtain ⟨rfl, -⟩ := List.cons.inj rest
        rw [longer] at first
        exact absurd (List.mem_append_right _ List.mem_cons_self) first

/-- Where some characters go on and others end a part. -/
theorem takeWhile_append_stop {p : α → Bool} {part rest : List α} (goes : ∀ a ∈ part, p a = true)
    (stops : ∀ a ∈ rest.head?, p a = false) :
    (part ++ rest).takeWhile p = part ∧ (part ++ rest).dropWhile p = rest := by
  rw [List.takeWhile_append_of_pos goes, List.dropWhile_append_of_pos goes]
  cases rest with
  | nil => exact ⟨List.append_nil _, rfl⟩
  | cons a rest =>
      have ends : p a = false := stops a rfl
      rw [List.takeWhile_cons_of_neg (by rw [ends]; exact Bool.false_ne_true),
        List.dropWhile_cons_of_neg (by rw [ends]; exact Bool.false_ne_true)]
      exact ⟨List.append_nil _, rfl⟩

end Text

/-- What an act gives that consists of two is given by the second after the first. -/
theorem Act.exists_of_bind_ok {α β : Type} {act : Act α} {next : α → Act β} {w : World}
    {t after : Trace} {b : β} (ended : (act >>= next) w t = (.ok b, after)) :
    ∃ a between, act w t = (.ok a, between) ∧ next a w between = (.ok b, after) := by
  rw [bind_apply] at ended
  rcases first : act w t with ⟨f | a, between⟩
  · rw [first] at ended
    cases ended
  · rw [first] at ended
    exact ⟨a, between, rfl, ended⟩

namespace Compose

open Docker (Client)
open Http.Location (percentOctets Escaped percentOctets_eq_encode percentOctets_eq_self
  not_escaped)

/-! ## Reading a URI -/

/-- The components of a URI that a database client connects with; percent signs have been
read. -/
structure Address where
  scheme : List Char
  user : Bytes
  password : Bytes
  host : Bytes
  port : List Char
  database : Bytes
  deriving DecidableEq

/-- The pieces of a URI as they stand in it; the tail is all behind the authority. -/
structure Pieces where
  scheme : List Char
  user : List Char
  password : List Char
  host : List Char
  port : List Char
  tail : List Char

/-- Whether a character is part of the authority. -/
def inAuthority (ch : Char) : Bool := !(['/', '?', '#'].contains ch)

/-- Whether a character is part of the path. -/
def inPath (ch : Char) : Bool := !(['?', '#'].contains ch)

theorem inAuthority_iff {ch : Char} : inAuthority ch = true ↔ ch ∉ ['/', '?', '#'] := by
  simp [inAuthority]

theorem inPath_iff {ch : Char} : inPath ch = true ↔ ch ∉ ['?', '#'] := by
  simp [inPath]

namespace Pieces

/-- Takes apart what is behind the slashes: the authority ends before a slash, a question mark or
a hash sign, in it the user information ends at the first at sign and the user at the first
colon. -/
def takeAuthority? (scheme rest : List Char) : Option Pieces := do
  let (userInfo, place) ← Text.splitOnce? '@' (rest.takeWhile inAuthority)
  let (user, password) ← Text.splitOnce? ':' userInfo
  let (host, port) ← Text.splitOnce? ':' place
  some ⟨scheme, user, password, host, port, rest.dropWhile inAuthority⟩

/-- Takes a URI apart. -/
def take? (uri : List Char) : Option Pieces :=
  match Text.splitOnce? ':' uri with
  | some (scheme, '/' :: '/' :: rest) => takeAuthority? scheme rest
  | _ => none

/-- The path, without the slash before it. -/
def path (p : Pieces) : List Char := (p.tail.takeWhile inPath).drop 1

/-- What pieces spell. -/
def address (p : Pieces) : Address :=
  ⟨p.scheme, percentOctets p.user, percentOctets p.password, percentOctets p.host, p.port,
    percentOctets p.path⟩

end Pieces

/-- Reads a URI. -/
def readAddress (uri : String) : Option Address := (Pieces.take? uri.toList).map Pieces.address

/-! ## Taking apart and putting together -/

namespace Pieces

/-- The authority of a URI. -/
def authority (p : Pieces) : List Char :=
  (p.user ++ ':' :: p.password) ++ '@' :: (p.host ++ ':' :: p.port)

/-- The URI of some pieces. -/
def text (p : Pieces) : List Char := p.scheme ++ ':' :: '/' :: '/' :: (p.authority ++ p.tail)

/-- Each piece ends at the first separator behind it. -/
structure Apart (p : Pieces) : Prop where
  scheme : ':' ∉ p.scheme
  user : ':' ∉ p.user
  userInfo : '@' ∉ p.user ++ ':' :: p.password
  host : ':' ∉ p.host
  authority : ∀ ch ∈ p.authority, inAuthority ch = true
  tail : ∀ ch ∈ p.tail.head?, inAuthority ch = false

theorem takeAuthority?_text {p : Pieces} (apart : p.Apart) :
    takeAuthority? p.scheme (p.authority ++ p.tail) = some p := by
  obtain ⟨taken, left⟩ := Text.takeWhile_append_stop apart.authority apart.tail
  rw [takeAuthority?, taken, left, authority, Text.splitOnce?_append apart.userInfo]
  show (Text.splitOnce? ':' (p.user ++ ':' :: p.password)).bind _ = some p
  rw [Text.splitOnce?_append apart.user]
  show (Text.splitOnce? ':' (p.host ++ ':' :: p.port)).bind _ = some p
  rw [Text.splitOnce?_append apart.host]
  rfl

theorem apart_of_takeAuthority? {scheme rest : List Char} {p : Pieces} (free : ':' ∉ scheme)
    (taken : takeAuthority? scheme rest = some p) :
    p.Apart ∧ p.scheme = scheme ∧ rest = p.authority ++ p.tail := by
  rw [takeAuthority?] at taken
  obtain ⟨⟨userInfo, place⟩, atSign, taken⟩ := Option.bind_eq_some_iff.mp taken
  obtain ⟨⟨user, password⟩, colon, taken⟩ := Option.bind_eq_some_iff.mp taken
  obtain ⟨⟨host, port⟩, behind, taken⟩ := Option.bind_eq_some_iff.mp taken
  cases taken
  obtain ⟨noSign, authority⟩ := Text.splitOnce?_eq_some.mp atSign
  obtain ⟨noColon, rfl⟩ := Text.splitOnce?_eq_some.mp colon
  obtain ⟨noColon', rfl⟩ := Text.splitOnce?_eq_some.mp behind
  refine ⟨⟨free, noColon, noSign, noColon', fun ch mem => ?_, fun ch first => ?_⟩, rfl, ?_⟩
  · have inside : ch ∈ rest.takeWhile inAuthority := authority ▸ mem
    exact List.mem_takeWhile_imp inside
  · have stands := List.head?_dropWhile_not inAuthority rest
    rw [Option.mem_def.mp first] at stands
    exact stands
  · exact (List.takeWhile_append_dropWhile (p := inAuthority)).symm.trans
      (congrArg (· ++ rest.dropWhile inAuthority) authority)

/-- Taking a URI apart gives the pieces that it is put together from, if they are apart. -/
theorem take?_eq_some {uri : List Char} {p : Pieces} :
    take? uri = some p ↔ p.Apart ∧ uri = p.text := by
  constructor
  · intro taken
    rw [take?] at taken
    split at taken
    · rename_i scheme rest cut
      obtain ⟨free, rfl⟩ := Text.splitOnce?_eq_some.mp cut
      obtain ⟨apart, rfl, rfl⟩ := apart_of_takeAuthority? free taken
      exact ⟨apart, rfl⟩
    · cases taken
  · rintro ⟨apart, rfl⟩
    rw [take?, text, Text.splitOnce?_append apart.scheme]
    exact takeAuthority?_text apart

end Pieces

/-! ## Texts in a URI -/

/-- Texts that come out of the URI that they are put into. -/
structure Legible (user password database : List Char) : Prop where
  userPlain : ¬Escaped user
  passwordPlain : ¬Escaped password
  databasePlain : ¬Escaped database
  userApart : ∀ ch ∈ user, ch ∉ [':', '@', '/', '?', '#']
  passwordApart : ∀ ch ∈ password, ch ∉ ['@', '/', '?', '#']
  databaseApart : ∀ ch ∈ database, ch ∉ ['?', '#']

/-- Texts without any of these characters are legible. -/
theorem legible_of_plain {user password database : List Char}
    (plain : ∀ ch ∈ user ++ password ++ database, ch ∉ [':', '@', '/', '?', '#', '%']) :
    Legible user password database := by
  simp only [List.mem_append, or_imp, forall_and] at plain
  obtain ⟨⟨inUser, inPassword⟩, inDatabase⟩ := plain
  have unescaped {cs : List Char} (free : ∀ ch ∈ cs, ch ∉ [':', '@', '/', '?', '#', '%']) :
      ¬Escaped cs :=
    not_escaped fun mem => free '%' mem (by decide)
  refine ⟨unescaped inUser, unescaped inPassword, unescaped inDatabase, fun ch mem => ?_,
    fun ch mem => ?_, fun ch mem => ?_⟩
  · have free := inUser ch mem
    simp_all
  · have free := inPassword ch mem
    simp_all
  · have free := inDatabase ch mem
    simp_all

/-- A piece that ends at the first separator and is read for the text that stands before a
separator is that text. -/
theorem read_piece {separator : Char} {piece text after after' : List Char}
    (same : piece ++ separator :: after = text ++ separator :: after') (first : separator ∉ piece)
    (read : percentOctets piece = Text.Utf8.encodeChars text) :
    piece = text ∧ after = after' ∧ ¬Escaped text := by
  rcases Text.cut_cases same first with ⟨rfl, rest⟩ | ⟨more, rfl⟩
  · exact ⟨rfl, rest, percentOctets_eq_self.mp read⟩
  · exact absurd (percentOctets_eq_encode.mp read).2 (List.cons_ne_nil _ _)

/-- Where the database is, as it is spelled. -/
def databaseHost : List Char := "127.0.0.1".toList

/-- The port of the database, as it is spelled. -/
def databasePort : List Char := "3306".toList

/-- What is put into the URI of a database. -/
def databasePieces (user password database : List Char) : Pieces :=
  ⟨"mysql".toList, user, password, databaseHost, databasePort, '/' :: database⟩

/-- What is meant by the URI of a database. -/
def databaseAddress (user password database : List Char) : Address :=
  ⟨"mysql".toList, Text.Utf8.encodeChars user, Text.Utf8.encodeChars password,
    Text.Utf8.encodeChars databaseHost, databasePort, Text.Utf8.encodeChars database⟩

theorem databaseUri_toList (c : Context) (password : String) :
    (databaseUri c password).toList =
      (databasePieces c.databaseUser.toList password.toList c.databaseName.toList).text := by
  have spelled : (databaseUri c password).toList = "mysql://".toList ++ c.databaseUser.toList ++
      ":".toList ++ password.toList ++ "@127.0.0.1:3306/".toList ++ c.databaseName.toList := by
    simp only [databaseUri, String.toList_append]
    rfl
  have scheme : "mysql://".toList = "mysql".toList ++ [':', '/', '/'] := rfl
  have place : "@127.0.0.1:3306/".toList =
      '@' :: (databaseHost ++ ':' :: databasePort) ++ ['/'] := rfl
  rw [spelled, scheme, place]
  simp [databasePieces, Pieces.text, Pieces.authority]

section Address

variable {user password database : List Char}

theorem databasePieces_apart (legible : Legible user password database) :
    (databasePieces user password database).Apart where
  scheme := (by decide : ':' ∉ "mysql".toList)
  user mem := legible.userApart _ mem (by decide)
  userInfo mem := by
    rcases List.mem_append.mp mem with inUser | behind
    · exact legible.userApart _ inUser (by decide)
    · rcases List.mem_cons.mp behind with colon | inPassword
      · exact absurd colon (by decide)
      · exact legible.passwordApart _ inPassword (by decide)
  host := (by decide : ':' ∉ databaseHost)
  authority := by
    have place : (databaseHost ++ ':' :: databasePort).all inAuthority = true := by decide
    refine List.forall_mem_append.mpr ⟨List.forall_mem_append.mpr ⟨fun ch mem => ?_,
      List.forall_mem_cons.mpr ⟨rfl, fun ch mem => ?_⟩⟩,
      List.forall_mem_cons.mpr ⟨rfl, List.all_eq_true.mp place⟩⟩
    · exact inAuthority_iff.mpr fun ends => legible.userApart ch mem (by simp_all)
    · exact inAuthority_iff.mpr fun ends => legible.passwordApart ch mem (by simp_all)
  tail ch first := by
    obtain rfl : '/' = ch := by simpa [databasePieces] using first
    rfl

/-- The path of the URI is read for the database exactly if nothing in it ends the path. -/
theorem path_read : percentOctets (databasePieces user password database).path =
    Text.Utf8.encodeChars database ↔ ¬Escaped database ∧ ∀ ch ∈ database, ch ∉ ['?', '#'] := by
  have path : (databasePieces user password database).path = database.takeWhile inPath := by
    rw [Pieces.path]
    show (('/' :: database).takeWhile inPath).drop 1 = _
    rw [List.takeWhile_cons_of_pos rfl]
    rfl
  have whole := List.takeWhile_append_dropWhile (p := inPath) (l := database)
  have ends : database.dropWhile inPath = [] ↔ ∀ ch ∈ database, ch ∉ ['?', '#'] := by
    rw [List.dropWhile_eq_nil_iff]
    exact forall₂_congr fun ch _ => inPath_iff
  rw [path, ← ends]
  generalize database.takeWhile inPath = front, database.dropWhile inPath = back at whole
  subst whole
  rw [percentOctets_eq_encode]
  constructor <;> rintro ⟨plain, rfl⟩
  · exact ⟨by rwa [List.append_nil], rfl⟩
  · exact ⟨by rwa [List.append_nil] at plain, rfl⟩

/-- The texts come out of the URI exactly if they are legible. -/
theorem take?_databasePieces :
    (Pieces.take? (databasePieces user password database).text).map Pieces.address =
      some (databaseAddress user password database) ↔ Legible user password database := by
  rw [Option.map_eq_some_iff]
  constructor
  · rintro ⟨⟨scheme, user', password', host, port, tail⟩, taken, read⟩
    obtain ⟨apart, same⟩ := Pieces.take?_eq_some.mp taken
    obtain ⟨rfl, readUser, readPassword, readHost, rfl, readPath⟩ := Address.mk.inj read
    have behind : user' ++ ':' :: (password' ++ '@' :: (host ++ ':' :: (databasePort ++ tail))) =
        user ++ ':' :: (password ++ '@' :: (databaseHost ++ ':' :: (databasePort ++
          '/' :: database))) := by
      simpa [Pieces.text, Pieces.authority, databasePieces] using same.symm
    -- from the left, each piece is the text that it is read for, and leaves what is behind both
    obtain ⟨rfl, behind, userPlain⟩ := read_piece behind apart.user readUser
    have noSign : '@' ∉ password' := fun mem =>
      apart.userInfo (List.mem_append_right _ (List.mem_cons_of_mem _ mem))
    obtain ⟨rfl, behind, passwordPlain⟩ := read_piece behind noSign readPassword
    obtain ⟨rfl, behind, -⟩ := read_piece behind apart.host readHost
    obtain rfl := List.append_cancel_left behind
    obtain ⟨databasePlain, databaseApart⟩ := path_read.mp readPath
    obtain ⟨userInfo, -⟩ := List.forall_mem_append.mp apart.authority
    obtain ⟨inUser, inPassword⟩ := List.forall_mem_append.mp userInfo
    refine ⟨userPlain, passwordPlain, databasePlain, fun ch mem => ?_, fun ch mem => ?_,
      databaseApart⟩
    · have noColon : ch ≠ ':' := by
        rintro rfl
        exact apart.user mem
      have noSign : ch ≠ '@' := by
        rintro rfl
        exact apart.userInfo (List.mem_append_left _ mem)
      have inside := inAuthority_iff.mp (inUser ch mem)
      simp_all
    · have noSign' : ch ≠ '@' := by
        rintro rfl
        exact noSign mem
      have inside := inAuthority_iff.mp (inPassword ch (List.mem_cons_of_mem _ mem))
      simp_all
  · intro legible
    refine ⟨_, Pieces.take?_eq_some.mpr ⟨databasePieces_apart legible, rfl⟩, ?_⟩
    have host : percentOctets databaseHost = Text.Utf8.encodeChars databaseHost :=
      percentOctets_eq_self.mpr (not_escaped (by decide))
    have readPath : percentOctets (databasePieces user password database).path =
        Text.Utf8.encodeChars database :=
      path_read.mpr ⟨legible.databasePlain, legible.databaseApart⟩
    rw [Pieces.address, readPath, databaseAddress]
    simp only [databasePieces, host, percentOctets_eq_self.mpr legible.userPlain,
      percentOctets_eq_self.mpr legible.passwordPlain]

end Address

/-! ## Parameters of a tunnel -/

/-- Reads parameters between ampersands, a name and a value around the first equals sign of
each. -/
def readParameters (text : String) : Option (List (String × String)) :=
  (Text.parts '&' text).mapM declaration?

/-- A parameter as it is written. -/
def parameter (p : String × String) : String := p.1 ++ "=" ++ p.2

/-- The parameters of a tunnel to the host of a context; the port is that of SSH if none is
stated, and a key is left out if none is. -/
def tunnelParameters (c : Context) : List (String × String) :=
  [("sshHost", c.sshHostname), ("sshUser", c.sshUser),
    ("sshPort", toString (if c.sshPort = 0 then 22 else c.sshPort))] ++
  if c.sshKey = "" then [] else [("sshKeyFile", c.sshKey)]

theorem forall_tunnelParameters {c : Context} {holds : String × String → Prop} :
    (∀ p ∈ tunnelParameters c, holds p) ↔
      holds ("sshHost", c.sshHostname) ∧ holds ("sshUser", c.sshUser) ∧
      holds ("sshPort", toString (if c.sshPort = 0 then 22 else c.sshPort)) ∧
      (c.sshKey ≠ "" → holds ("sshKeyFile", c.sshKey)) := by
  by_cases key : c.sshKey = "" <;> simp [tunnelParameters, key]

/-- Port numbers are spelled by digits. -/
theorem ampersand_not_mem_port (port : UInt16) : '&' ∉ (toString port).toList := by
  intro mem
  have digits : (toString port).toList = Nat.toDigits 10 port.toNat := String.toList_ofList
  rw [digits] at mem
  exact absurd (Nat.isDigit_of_mem_toDigits (by decide) (by decide) mem) (by decide)

theorem mapM_declaration? {entries : List String} {ps : List (String × String)}
    (named : ∀ p ∈ ps, '=' ∉ p.1.toList) :
    entries.mapM declaration? = some ps ↔ entries = ps.map parameter := by
  induction entries generalizing ps with
  | nil => cases ps <;> simp
  | cons entry entries ih =>
      cases ps with
      | nil =>
          rw [List.mapM_cons]
          cases declaration? entry <;> cases entries.mapM declaration? <;> simp
      | cons p ps =>
          obtain ⟨first, rest⟩ := List.forall_mem_cons.mp named
          have declares : declaration? entry = some p ↔ entry = parameter p :=
            declaration?_eq_some.trans (and_iff_right first)
          rw [List.mapM_cons, List.map_cons, List.cons.injEq, ← ih rest, ← declares]
          cases declaration? entry <;> cases entries.mapM declaration? <;> simp

/-- Named parameters come out of the text that they are put together to exactly if no ampersand
stands in their values. -/
theorem readParameters_eq_some {text : String} {ps : List (String × String)} (something : ps ≠ [])
    (named : ∀ p ∈ ps, '=' ∉ p.1.toList ∧ '&' ∉ p.1.toList)
    (spelled : text.toList = Text.join '&' (ps.map fun p => (parameter p).toList)) :
    readParameters text = some ps ↔ ∀ p ∈ ps, '&' ∉ p.2.toList := by
  have parameter_toList (p : String × String) :
      (parameter p).toList = p.1.toList ++ '=' :: p.2.toList := by
    rw [parameter, String.toList_append, String.toList_append, List.append_assoc]
    rfl
  rw [readParameters, mapM_declaration? fun p mem => (named p mem).1]
  constructor
  · intro parts p mem inside
    have part : parameter p ∈ Text.parts '&' text := parts ▸ List.mem_map_of_mem mem
    obtain ⟨cs, cut, same⟩ := List.mem_map.mp part
    refine Text.separator_not_mem '&' cut ?_
    rw [← String.toList_ofList (l := cs), same, parameter_toList]
    exact List.mem_append_right _ (List.mem_cons_of_mem _ inside)
  · intro free
    have whole : ∀ part ∈ ps.map fun p => (parameter p).toList, '&' ∉ part := by
      intro part mem
      obtain ⟨p, stated, rfl⟩ := List.mem_map.mp mem
      have inName := (named p stated).2
      have inValue := free p stated
      rw [parameter_toList, List.mem_append, List.mem_cons]
      rintro (name | sign | value)
      · exact inName name
      · exact absurd sign (by decide)
      · exact inValue value
    rw [Text.parts, spelled, Text.split_join (by simpa using something) whole, List.map_map]
    exact List.map_congr_left fun p _ => String.ofList_toList

theorem sshUri?_remote {c : Context} (remote : c.kind = .remote) :
    ∃ tunnel, c.sshUri? = some tunnel ∧
      tunnel.toList = Text.join '&' ((tunnelParameters c).map fun p => (parameter p).toList) := by
  have isRemote : c.isRemote = true := by simp [Context.isRemote, remote]
  rw [Context.sshUri?, if_pos isRemote]
  refine ⟨_, rfl, ?_⟩
  have port : (if (c.sshPort == 0) = true then (22 : UInt16) else c.sshPort) =
      if c.sshPort = 0 then 22 else c.sshPort := by
    simp only [beq_iff_eq]
  rw [port, tunnelParameters]
  generalize (if c.sshPort = 0 then (22 : UInt16) else c.sshPort) = port
  have shown (text : String) : toString text = text := rfl
  by_cases key : c.sshKey = ""
  · rw [if_pos key, if_pos (String.isEmpty_iff.mpr key)]
    simp [shown, parameter, Text.join]
  · rw [if_neg key, if_neg fun empty => key (String.isEmpty_iff.mp empty)]
    simp [shown, parameter, Text.join]

theorem sshUri?_here {c : Context} (here : c.kind = .here) : c.sshUri? = none := by
  simp [Context.sshUri?, Context.isRemote, here]

/-! ## Addresses of a database -/

/-- A password is trimmed of line ends, and of nothing else. -/
theorem trimPassword_spec (text : String) : ∃ ends,
    text.toList = (trimPassword text).toList ++ ends ∧ (∀ ch ∈ ends, ch = '\r' ∨ ch = '\n') ∧
      ∀ ch ∈ (trimPassword text).toList.getLast?, ch ≠ '\r' ∧ ch ≠ '\n' := by
  let ends : Char → Bool := fun ch => ch = '\r' || ch = '\n'
  have trimmed : (trimPassword text).toList = (text.toList.reverse.dropWhile ends).reverse :=
    String.toList_ofList
  rw [trimmed]
  refine ⟨(text.toList.reverse.takeWhile ends).reverse, ?_, fun ch mem => ?_, fun ch last => ?_⟩
  · rw [← List.reverse_append, List.takeWhile_append_dropWhile, List.reverse_reverse]
  · have lineEnd := List.mem_takeWhile_imp (List.mem_reverse.mp mem)
    simpa [ends] using lineEnd
  · have stands := List.head?_dropWhile_not ends text.toList.reverse
    rw [List.getLast?_reverse] at last
    rw [Option.mem_def.mp last] at stands
    simpa [ends] using stands

/-- The addresses of a database are put together from the context and the password, which is
the secret of the database's container without the line ends behind it. -/
theorem databaseUris_ok {client : Client} {c : Context} {w : World} {t after : Trace}
    {uris : DatabaseUris} (succeeds : databaseUris client c w t = (.ok uris, after)) :
    ∃ container between text,
      findContainer client c c.databaseService w t = (.ok container, between) ∧
      secret client c container c.databasePasswordSecret w between = (.ok text, after) ∧
      uris = ⟨databaseUri c (trimPassword text), c.sshUri?⟩ := by
  obtain ⟨container, between, found, succeeds⟩ := Act.exists_of_bind_ok succeeds
  obtain ⟨text, after', told, succeeds⟩ := Act.exists_of_bind_ok succeeds
  cases succeeds
  exact ⟨container, between, text, found, told, rfl⟩

/-- **The addresses of a database are read back where nothing in them is taken for a separator
or an escape.**  Whenever they are given, the password is the secret of the database's container
without the carriage returns and line feeds at its end.  A client that reads the URI gets the
user, this password, the host, the port and the database of the context exactly if no separator
of the user, the password or the database stands in these texts, and no percent sign before two
digits.

There is a tunnel exactly on another host, and its parameters are the host's name, the user, the
port and, if one is stated, the key of the context exactly if no ampersand stands in these
texts. -/
theorem databaseUris_read {client : Client} {c : Context} {w : World} {t after : Trace}
    {uris : DatabaseUris} (succeeds : databaseUris client c w t = (.ok uris, after)) :
    ∃ container between text,
      let password := (trimPassword text).toList
      findContainer client c c.databaseService w t = (.ok container, between) ∧
      secret client c container c.databasePasswordSecret w between = (.ok text, after) ∧
      (∃ ends, text.toList = password ++ ends ∧ (∀ ch ∈ ends, ch = '\r' ∨ ch = '\n') ∧
        ∀ ch ∈ password.getLast?, ch ≠ '\r' ∧ ch ≠ '\n') ∧
      (readAddress uris.database =
          some (databaseAddress c.databaseUser.toList password c.databaseName.toList) ↔
        Legible c.databaseUser.toList password c.databaseName.toList) ∧
      (c.kind = .here → uris.tunnel = none) ∧
      (c.kind = .remote → ∃ tunnel, uris.tunnel = some tunnel ∧
        (readParameters tunnel = some (tunnelParameters c) ↔
          ∀ text ∈ [c.sshHostname, c.sshUser, c.sshKey], '&' ∉ text.toList)) := by
  obtain ⟨container, between, text, found, told, rfl⟩ := databaseUris_ok succeeds
  refine ⟨container, between, text, found, told, trimPassword_spec text, ?_, sshUri?_here,
    fun remote => ?_⟩
  · rw [readAddress, databaseUri_toList]
    exact take?_databasePieces
  · obtain ⟨tunnel, stated, spelled⟩ := sshUri?_remote remote
    have named : ∀ p ∈ tunnelParameters c, '=' ∉ p.1.toList ∧ '&' ∉ p.1.toList :=
      forall_tunnelParameters.mpr (by simp)
    refine ⟨tunnel, stated, (readParameters_eq_some (by simp [tunnelParameters]) named
      spelled).trans ?_⟩
    have absent : (c.sshKey ≠ "" → '&' ∉ c.sshKey.toList) ↔ '&' ∉ c.sshKey.toList := by
      by_cases key : c.sshKey = "" <;> simp [key]
    rw [forall_tunnelParameters, absent, and_iff_right (ampersand_not_mem_port _)]
    simp

/-! ## The database of the key's container -/

/-- What the addresses are put together from where the key's container runs the database. -/
theorem keyClient_databaseUris {c : Context} {w : World} {t : Trace} {text : String}
    (found : (findContainer keyClient c c.databaseService w t).1 = .ok "search")
    (unmounted : secretMount? keyInspection c.databasePasswordSecret = none)
    (stated : lookupVariable keyVariables c.databasePasswordSecret = some text) :
    ∃ between after,
      findContainer keyClient c c.databaseService w t = (.ok "search", between) ∧
      secret keyClient c "search" c.databasePasswordSecret w between = (.ok text, after) ∧
      databaseUris keyClient c w t =
        (.ok ⟨databaseUri c (trimPassword text), c.sshUri?⟩, after) := by
  rcases finds : findContainer keyClient c c.databaseService w t with ⟨r, between⟩
  rw [finds] at found
  obtain rfl : r = .ok "search" := found
  have declared : FirstDeclares (keyInspection.environment.getD []) c.databasePasswordSecret text :=
    lookupVariable_eq_some.mp stated
  have told := secret_unmounted (c := c) (keyClient_inspect w between) unmounted
  rw [statedVariable_eq_ok.mpr declared] at told
  refine ⟨between, _, rfl, told, ?_⟩
  rw [databaseUris, Act.bind_ok finds, Act.bind_ok told]
  rfl

/-- A context whose database is run by the key's container. -/
def catalogue : Context := { gallery with databaseService := "solr" }

/-- The same on another host, with another password and without a port. -/
def farCatalogue : Context :=
  { catalogue with
    kind := .remote, databasePasswordSecret := "PAIR", sshHostname := "museum.example"
    sshUser := "deploy", sshPort := 0, sshKey := "~/id" }

/-- A password that nothing stands in that ends it is read back, and so is the way to the host. -/
theorem farCatalogue_read :
    ∃ uris after tunnel, databaseUris keyClient farCatalogue keyWorld {} = (.ok uris, after) ∧
      readAddress uris.database = some (databaseAddress "root".toList "a=b".toList
        "drupal_default".toList) ∧
      uris.tunnel = some tunnel ∧ readParameters tunnel = some [("sshHost", "museum.example"),
        ("sshUser", "deploy"), ("sshPort", "22"), ("sshKeyFile", "~/id")] := by
  have password : lookupVariable keyVariables "PAIR" = some "a=b" := by decide
  obtain ⟨before, after, finds, tells, given⟩ := keyClient_databaseUris (c := farCatalogue)
    (w := keyWorld) (t := {}) (by decide +kernel) (by decide) password
  obtain ⟨container, between, text, found, told, -, legible, -, far⟩ := databaseUris_read given
  obtain ⟨same, rfl⟩ := Prod.mk.inj (finds.symm.trans found)
  obtain rfl := Except.ok.inj same
  obtain rfl := Except.ok.inj (Prod.mk.inj (tells.symm.trans told)).1
  obtain ⟨tunnel, stated, parameters⟩ := far rfl
  have plain : ("root".toList ++ "a=b".toList ++ "drupal_default".toList).all
      (fun ch => ch ∉ [':', '@', '/', '?', '#', '%']) = true := by decide
  refine ⟨_, after, tunnel, given, legible.mpr (legible_of_plain fun ch mem => ?_), stated,
    parameters.mpr (by decide)⟩
  exact of_decide_eq_true (List.all_eq_true.mp plain ch mem)

/-- A password with a slash in it is not read back. -/
theorem catalogue_misread :
    ¬∀ (client : Client) (c : Context) (w : World) (t between after : Trace) (container : String)
        (text : String) (uris : DatabaseUris),
      findContainer client c c.databaseService w t = (.ok container, between) →
      secret client c container c.databasePasswordSecret w between = (.ok text, after) →
      databaseUris client c w t = (.ok uris, after) →
      readAddress uris.database = some (databaseAddress c.databaseUser.toList
        (trimPassword text).toList c.databaseName.toList) := by
  intro reads
  have password : lookupVariable keyVariables "DB_ROOT_PASSWORD" = some "pa/ss" := by decide
  obtain ⟨between, after, found, told, given⟩ := keyClient_databaseUris (c := catalogue)
    (w := keyWorld) (t := {}) (by decide +kernel) (by decide) password
  have read := reads _ _ _ _ _ _ _ _ _ found told given
  have misread : readAddress (databaseUri catalogue (trimPassword "pa/ss")) = none := by decide
  rw [misread] at read
  cases read

end Compose

end ComposeSite
