/-
# ComposeSite.Proofs.Context.Resolution -- which context a name stands for, and what it has

Names are compared letter by letter, and of two letters only the ASCII case is disregarded
(`sameName_iff`).  A name stands for the first context that it fits (`find?_eq_some`), whether or
not a later one would be of more use.

A context passes validation if it has what its kind needs, and nothing else is looked at
(`validate_eq_ok`).  For a remote one this is all that dialing needs of the settings, on any
machine (`sshTarget_usable`), so once a context has been resolved no dialing fails for them
(`first_usable_resolved`).
-/
import ComposeSite.Context.Config
import ComposeSite.Proofs.Ssh.HostKey
import Mathlib.Data.List.Forall2
import Mathlib.Data.List.TakeWhile

set_option autoImplicit false

namespace ComposeSite

/-! ## White space only -/

namespace Text

theorem trimChars_eq_nil {cs : List Char} : trimChars cs = [] ↔ ∀ c ∈ cs, isBlank c = true := by
  have ends : trimChars cs = [] ↔ ∀ c ∈ trimStart cs, isBlank c = true := by
    rw [trimChars, trimEnd, dropEndWhile, List.reverse_eq_nil_iff, List.dropWhile_eq_nil_iff]
    simp only [List.mem_reverse]
  rw [ends, trimStart]
  constructor
  · intro rest c member
    rw [← List.takeWhile_append_dropWhile (p := isBlank) (l := cs), List.mem_append] at member
    exact member.elim List.mem_takeWhile_imp (rest c)
  · intro blank c member
    exact blank c ((List.dropWhile_suffix isBlank).subset member)

theorem isEmpty_trim {s : String} :
    (trim s).isEmpty = true ↔ ∀ c ∈ s.toList, isBlank c = true := by
  rw [← trimChars_eq_nil, trim, String.isEmpty_iff, ← String.toList_inj, String.toList_ofList]
  rfl

end Text

/-! ## Names but for the case of letters -/

/-- Two characters are the same, or they are the two cases of one ASCII letter. -/
def SameLetter (a b : Char) : Prop :=
  a = b ∨ ('A' ≤ a ∧ a ≤ 'Z' ∧ b.toNat = a.toNat + 32) ∨
    ('A' ≤ b ∧ b ≤ 'Z' ∧ a.toNat = b.toNat + 32)

/-- Two texts are the same but for the case of ASCII letters. -/
def SameName (a b : String) : Prop := List.Forall₂ SameLetter a.toList b.toList

theorem capital_iff {c : Char} : ('A' ≤ c ∧ c ≤ 'Z') ↔ 65 ≤ c.toNat ∧ c.toNat ≤ 90 :=
  and_congr UInt32.le_iff_toNat_le UInt32.le_iff_toNat_le

theorem toNat_toLower (c : Char) :
    c.toLower.toNat = if 65 ≤ c.toNat ∧ c.toNat ≤ 90 then c.toNat + 32 else c.toNat := by
  unfold Char.toLower
  by_cases capital : 65 ≤ c.toNat ∧ c.toNat ≤ 90
  · have upper : c.val ≥ 'A'.val ∧ c.val ≤ 'Z'.val := capital_iff.mpr capital
    rw [dif_pos upper, if_pos capital]
    have small : c.val.toNat ≤ 90 := capital.2
    show (c.val + ('a'.val - 'A'.val)).toNat = c.val.toNat + 32
    rw [UInt32.toNat_add]
    exact Nat.mod_eq_of_lt (show c.val.toNat + 32 < 2 ^ 32 by omega)
  · have other : ¬(c.val ≥ 'A'.val ∧ c.val ≤ 'Z'.val) := fun upper =>
      capital (capital_iff.mp upper)
    rw [dif_neg other, if_neg capital]

theorem toLower_eq_iff {a b : Char} : a.toLower = b.toLower ↔ SameLetter a b := by
  rw [SameLetter, ← and_assoc, ← and_assoc, capital_iff, capital_iff, ← Char.toNat_inj,
    ← Char.toNat_inj, toNat_toLower, toNat_toLower]
  split <;> split <;> omega

namespace Config

theorem sameName_iff {a b : String} : sameName a b = true ↔ SameName a b := by
  rw [sameName, decide_eq_true_eq, ← List.forall₂_eq_eq_eq, List.forall₂_map_left_iff,
    List.forall₂_map_right_iff]
  simp only [toLower_eq_iff, SameName]

/-! ## The context of a name -/

/-- What a request asks for: the current context's name if it gives none, and otherwise the
name that it gives. -/
def Asks (config : Config) (request : Option String) (name : String) : Prop :=
  (request ∈ [none, some "", some "default"] ∧ name = config.current) ∨
    (request = some name ∧ name ∉ ["", "default"])

/-- A context is the first one that a name fits. -/
def FirstNamed (config : Config) (name : String) (c : Context) : Prop :=
  ∃ before after, config.contexts = before ++ c :: after ∧ SameName c.name name ∧
    ∀ earlier ∈ before, ¬SameName earlier.name name

variable {config : Config} {name : String} {c : Context}

theorem asks_iff {request : Option String} :
    config.Asks request name ↔ name = config.wanted request := by
  unfold wanted Asks
  split <;> grind

theorem find?_eq_some : config.find? name = some c ↔ config.FirstNamed name c := by
  rw [find?, List.find?_eq_some_iff_append, sameName_iff, FirstNamed]
  constructor
  · rintro ⟨fits, before, after, whole, earlier⟩
    refine ⟨before, after, whole, fits, fun e member same => ?_⟩
    have unlike := earlier e member
    rw [sameName_iff.mpr same] at unlike
    cases unlike
  · rintro ⟨before, after, whole, fits, earlier⟩
    refine ⟨fits, before, after, whole, fun e member => ?_⟩
    rw [Bool.not_eq_true', Bool.eq_false_iff]
    exact fun same => earlier e member (sameName_iff.mp same)

theorem find?_eq_none :
    config.find? name = none ↔ ∀ c ∈ config.contexts, ¬SameName c.name name := by
  simp only [find?, List.find?_eq_none, sameName_iff]

end Config

/-! ## What a context needs -/

namespace Context

/-- A context has what its kind needs: a socket whose path is not blank, or all the settings of a
host. -/
def Usable (c : Context) : Prop :=
  match c.kind with
  | .here => ∃ ch ∈ c.dockerSocket.toList, Text.isBlank ch = false
  | .remote => c.sshUser ≠ "" ∧ c.sshHostname ≠ "" ∧ c.sshPort ≠ 0 ∧ c.sshKey ≠ ""

variable {c : Context}

theorem missingSettings_eq_nil : c.missingSettings = [] ↔
    c.sshUser ≠ "" ∧ c.sshHostname ≠ "" ∧ c.sshPort ≠ 0 ∧ c.sshKey ≠ "" := by
  rw [missingSettings, List.filterMap_eq_nil_iff]
  simp

/-- A remote context has what it needs exactly if its host can be addressed. -/
theorem sshTarget_usable (remote : c.kind = .remote) (home : String) :
    (∃ target, c.sshTarget home = .ok target) ↔ c.Usable := by
  rw [Usable, remote, ← missingSettings_eq_nil, sshTarget, target]
  cases c.missingSettings with
  | nil => simp [Except.mapError]
  | cons f fs => simp [Except.mapError]

theorem validate_eq_ok (home : String) : c.validate home = .ok () ↔ c.Usable := by
  cases kind : c.kind with
  | here =>
      rw [validate, Usable, kind]
      simp only [Text.isEmpty_trim]
      split
      · rename_i blank
        refine iff_of_false (by simp) ?_
        rintro ⟨ch, member, shown⟩
        rw [blank ch member] at shown
        cases shown
      · rename_i shown
        refine iff_of_true rfl ?_
        simpa using shown
  | remote =>
      rw [← sshTarget_usable kind home, validate, kind]
      cases c.sshTarget home with
      | error f => simp [Except.map]
      | ok target => simp [Except.map]

end Context

/-! ## Dialing -/

namespace Ssh

variable {w : World} {t : Trace} {cause : ConfigFailure}

theorem whileDialing_ne_config (address : String) (f : Failure) :
    whileDialing address f ≠ .config cause := by
  cases f <;> simp [whileDialing]

theorem decodeKey_ne_config (text : String) (passphrase : Option String) (path : String) :
    decodeKey text passphrase path ≠ .error (.config cause) := by
  rw [decodeKey]
  cases KeyText.decode text passphrase <;> simp [Except.mapError]

/-- A key that cannot be read is not put down to the configuration, whatever is typed for it. -/
theorem loadKey_ne_config (files : Host.FileTree) (path : String)
    (passphrase : String → Except IoFailure String) :
    loadKey files path passphrase ≠ .error (.config cause) := by
  rw [loadKey]
  cases files.readText path with
  | error f => simp [Except.mapError, bind, Except.bind]
  | ok text =>
      simp only [Except.mapError, bind, Except.bind]
      split
      · cases passphrase path with
        | error f => simp
        | ok typed => exact decodeKey_ne_config text (some typed) path
      · exact decodeKey_ne_config text none path

/-- Where the host can be addressed, dialing it does not fail for the settings. -/
theorem dial_ne_config {c : Context} {target : Target}
    (addressed : c.sshTarget w.environment.home = .ok target) :
    (dial c w t).1 ≠ .error (.config cause) := by
  have hasTarget : (Act.examine fun w => c.sshTarget w.environment.home) w t =
      (.ok target, t) := by
    rw [Act.examine, addressed]
  rw [dial, Act.bind_ok hasTarget, Act.bind_apply]
  have key : (readKey target w t).1 = loadKey w.files target.keyPath w.passphrase := rfl
  rcases read : readKey target w t with ⟨f | key, t'⟩
  · rw [read] at key
    intro failed
    cases failed
    exact loadKey_ne_config _ _ _ key.symm
  · show ((connect target).blaming (whileDialing target.address) w t').1 ≠ _
    rw [Act.blaming]
    rcases connect target w t' with ⟨f | connection, _⟩
    · intro failed
      exact whileDialing_ne_config target.address f (Except.error.inj failed)
    · intro failed
      cases failed

end Ssh

/-! ## The context that is asked for -/

namespace Config

section Context

variable {config : Config} {request : Option String} {name home : String} {c : Context}
  (asks : config.Asks request name)

include asks

theorem context_nameless (nameless : name = "") :
    config.context home request = .error (.config .noCurrentContext) := by
  rw [context, ← asks_iff.mp asks, nameless]
  rfl

theorem context_unknown (named : name ≠ "") (unknown : config.find? name = none) :
    config.context home request = .error (.config (.unknownContext name)) := by
  have something : ¬name.isEmpty = true := fun empty => named (String.isEmpty_iff.mp empty)
  rw [context, ← asks_iff.mp asks]
  simp only [if_neg something, unknown]
  rfl

/-- The first context of the name is validated, and no other is looked at. -/
theorem context_found (named : name ≠ "") (found : config.find? name = some c) :
    config.context home request = (c.validate home).map fun _ => c := by
  have something : ¬name.isEmpty = true := fun empty => named (String.isEmpty_iff.mp empty)
  rw [context, ← asks_iff.mp asks]
  simp only [if_neg something, found]
  cases c.validate home <;> rfl

theorem context_eq_ok : config.context home request = .ok c ↔
    name ≠ "" ∧ config.FirstNamed name c ∧ c.validate home = .ok () := by
  rw [← find?_eq_some]
  by_cases named : name = ""
  · simp [context_nameless asks named, named]
  cases found : config.find? name with
  | none => simp [context_unknown asks named found]
  | some first =>
      rw [context_found asks named found]
      constructor
      · intro resolved
        cases valid : first.validate home with
        | error f =>
            rw [valid] at resolved
            cases resolved
        | ok u =>
            rw [valid] at resolved
            cases resolved
            exact ⟨named, rfl, valid⟩
      · rintro ⟨-, same, valid⟩
        cases same
        rw [valid]
        rfl

theorem context_eq_error {f : Failure} : config.context home request = .error f ↔
    (name = "" ∧ f = .config .noCurrentContext) ∨
    (name ≠ "" ∧ (∀ c ∈ config.contexts, ¬SameName c.name name) ∧
      f = .config (.unknownContext name)) ∨
    (name ≠ "" ∧ ∃ c, config.FirstNamed name c ∧ c.validate home = .error f) := by
  simp only [← find?_eq_some, ← find?_eq_none]
  by_cases named : name = ""
  · simp [context_nameless asks named, named, eq_comm]
  cases found : config.find? name with
  | none => simp [context_unknown asks named found, named, eq_comm]
  | some first =>
      rw [context_found asks named found]
      cases valid : first.validate home <;> simp [named, valid, Except.map]

end Context

/-- **A resolved context is the first of its name, and has what it needs.**  A request asks for
one name.  Resolving it fails if the name is empty or fits no context, and with what is wrong with
the first context that it fits, if that one cannot be used; otherwise this is the context, as it
is written.

So a local context has a socket whose path is not blank, and the host of a remote one can be
addressed, on any machine: dialing it does not fail for the configuration. -/
theorem first_usable_resolved (config : Config) (home : String) (request : Option String) :
    ∃ name, config.Asks request name ∧
      (∀ f, config.context home request = .error f ↔
        (name = "" ∧ f = .config .noCurrentContext) ∨
        (name ≠ "" ∧ (∀ c ∈ config.contexts, ¬SameName c.name name) ∧
          f = .config (.unknownContext name)) ∨
        (name ≠ "" ∧ ∃ c, config.FirstNamed name c ∧ c.validate home = .error f)) ∧
      (∀ c, config.context home request = .ok c ↔
        name ≠ "" ∧ config.FirstNamed name c ∧ c.validate home = .ok ()) ∧
      ∀ c, config.context home request = .ok c →
        (c.kind = .here → ∃ ch ∈ c.dockerSocket.toList, Text.isBlank ch = false) ∧
        (c.kind = .remote → (∀ home, ∃ target, c.sshTarget home = .ok target) ∧
          ∀ w t cause, (Ssh.dial c w t).1 ≠ .error (.config cause)) := by
  have asks : config.Asks request (config.wanted request) := asks_iff.mpr rfl
  refine ⟨config.wanted request, asks, fun f => context_eq_error asks,
    fun c => context_eq_ok asks, fun c resolved => ?_⟩
  obtain ⟨-, -, valid⟩ := (context_eq_ok asks).mp resolved
  have usable : c.Usable := (Context.validate_eq_ok home).mp valid
  refine ⟨fun here => ?_, fun remote => ?_⟩
  · rw [Context.Usable, here] at usable
    exact usable
  · have addressed (home : String) : ∃ target, c.sshTarget home = .ok target :=
      (Context.sshTarget_usable remote home).mpr usable
    refine ⟨addressed, fun w t cause => ?_⟩
    obtain ⟨target, found⟩ := addressed w.environment.home
    exact Ssh.dial_ne_config found

/-- Two contexts of the museum, of which only the second can be used. -/
def twoMuseums : Config where
  current := "MUSEUM"
  contexts := [{ Ssh.museum with name := "Museum", sshUser := "" }, Ssh.museum]

/-- The second context of a name is not tried, and the one that is given can be dialed. -/
theorem second_museum_untried :
    twoMuseums.context "/root" (some "default") =
      .error (.config (.incomplete "Museum" [.sshUser])) ∧
    Config.context ⟨"", [Ssh.museum]⟩ "/root" (some "Museum") = .ok Ssh.museum ∧
    ∀ cause, (Ssh.dial Ssh.museum Ssh.firstVisit {}).1 ≠ .error (.config cause) := by
  obtain ⟨name, asks, fails, -⟩ := first_usable_resolved twoMuseums "/root" (some "default")
  obtain rfl := asks_iff.mp asks
  obtain ⟨name', asks', -, resolves, usable⟩ :=
    first_usable_resolved ⟨"", [Ssh.museum]⟩ "/root" (some "Museum")
  obtain rfl := asks_iff.mp asks'
  have resolved : Config.context ⟨"", [Ssh.museum]⟩ "/root" (some "Museum") = .ok Ssh.museum :=
    (resolves _).mpr ⟨by decide, find?_eq_some.mp (by decide), by decide⟩
  refine ⟨(fails _).mpr (.inr (.inr ⟨by decide, _, find?_eq_some.mp rfl, by decide⟩)), resolved, ?_⟩
  exact fun cause => ((usable _ resolved).2 rfl).2 _ _ cause

end Config

end ComposeSite
