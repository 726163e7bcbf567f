/-
# ComposeSite.Proofs.Compose.Secret -- where a secret comes from

A container's variables are declared by entries: a name stands before the first equals sign of
an entry and its value behind it (`Declares`).  The first entry that declares a name counts
(`lookupVariable_eq_some`), and a name that no entry declares has no value
(`lookupVariable_eq_none`).

A secret is read from a file as soon as a mount stands where the container sees it, of several
mounts from that of the first (`FirstAt`).  The variables play no part then, also if the file
cannot be read; without such a mount they are all that is looked at (`mounted_secret_wins`).
-/
import ComposeSite.Proofs.Program.Targets

set_option autoImplicit false

namespace ComposeSite.Compose

open Docker (Client Inspection Mount)

/-! ## Variables -/

/-- An entry declares a value of a name: the name is what stands before the first equals sign,
and the value is all that stands behind it. -/
def Declares (entry name value : String) : Prop :=
  '=' ∉ name.toList ∧ entry = name ++ "=" ++ value

/-- Of some entries, the first one that declares a name declares a value of it. -/
def FirstDeclares (entries : List String) (name value : String) : Prop :=
  ∃ before entry after, entries = before ++ entry :: after ∧ Declares entry name value ∧
    ∀ earlier ∈ before, ∀ v, ¬ Declares earlier name v

theorem declares_iff {entry name value : String} : Declares entry name value ↔
    '=' ∉ name.toList ∧ entry.toList = name.toList ++ '=' :: value.toList := by
  have spelled : (name ++ "=" ++ value).toList = name.toList ++ '=' :: value.toList := by
    rw [String.toList_append, String.toList_append, List.append_assoc]
    rfl
  rw [Declares, ← String.toList_inj, spelled]

theorem declaration?_eq_some {entry name value : String} :
    declaration? entry = some (name, value) ↔ Declares entry name value := by
  rw [declaration?, Option.map_eq_some_iff, declares_iff]
  constructor
  · rintro ⟨⟨before, after⟩, cut, same⟩
    obtain ⟨rfl, rfl⟩ := Prod.mk.inj same
    rw [String.toList_ofList, String.toList_ofList]
    exact Text.splitOnce?_eq_some.mp cut
  · intro declares
    refine ⟨(name.toList, value.toList), Text.splitOnce?_eq_some.mpr declares, ?_⟩
    show (String.ofList name.toList, String.ofList value.toList) = (name, value)
    rw [String.ofList_toList, String.ofList_toList]

/-- An entry without an equals sign declares nothing. -/
theorem not_declares_of_not_mem {entry : String} (free : '=' ∉ entry.toList)
    (name value : String) : ¬ Declares entry name value := by
  intro declares
  rw [(declares_iff.mp declares).2] at free
  exact free (List.mem_append_right _ List.mem_cons_self)

section Entries

variable {entry : String} {entries : List String} {name value : String}

theorem lookupVariable_declared (declares : Declares entry name value) :
    lookupVariable (entry :: entries) name = some value := by
  rw [lookupVariable, List.filterMap_cons_some (declaration?_eq_some.mpr declares),
    List.lookup_cons_self]

theorem lookupVariable_undeclared (silent : ∀ v, ¬ Declares entry name v) :
    lookupVariable (entry :: entries) name = lookupVariable entries name := by
  rw [lookupVariable, lookupVariable]
  cases declared : declaration? entry with
  | none => rw [List.filterMap_cons_none declared]
  | some d =>
      obtain ⟨other, v⟩ := d
      have apart : name ≠ other := by
        rintro rfl
        exact silent v (declaration?_eq_some.mp declared)
      rw [List.filterMap_cons_some declared, List.lookup_cons, beq_false_of_ne apart]

/-- A name that no entry declares has no value, and every other name has one. -/
theorem lookupVariable_eq_none : lookupVariable entries name = none ↔
    ∀ entry ∈ entries, ∀ value, ¬ Declares entry name value := by
  induction entries with
  | nil => exact iff_of_true rfl fun _ mem => by cases mem
  | cons entry entries ih =>
      rw [List.forall_mem_cons, ← ih]
      by_cases declared : ∃ value, Declares entry name value
      · obtain ⟨value, declares⟩ := declared
        rw [lookupVariable_declared declares]
        exact iff_of_false (Option.some_ne_none _) fun none => none.1 value declares
      · have silent := not_exists.mp declared
        rw [lookupVariable_undeclared silent]
        exact (and_iff_right silent).symm

/-- The value of a name is that which the first entry declares that declares one. -/
theorem lookupVariable_eq_some :
    lookupVariable entries name = some value ↔ FirstDeclares entries name value := by
  constructor
  · intro found
    induction entries with
    | nil => cases found
    | cons entry entries ih =>
        by_cases declared : ∃ value, Declares entry name value
        · obtain ⟨value', declares⟩ := declared
          rw [lookupVariable_declared declares] at found
          cases found
          exact ⟨[], entry, entries, rfl, declares, fun _ mem => by cases mem⟩
        · have silent := not_exists.mp declared
          rw [lookupVariable_undeclared silent] at found
          obtain ⟨before, first, after, rfl, declares, earlier⟩ := ih found
          exact ⟨entry :: before, first, after, rfl, declares,
            List.forall_mem_cons.mpr ⟨silent, earlier⟩⟩
  · rintro ⟨before, first, after, rfl, declares, earlier⟩
    induction before with
    | nil => exact lookupVariable_declared declares
    | cons entry before ih =>
        obtain ⟨silent, rest⟩ := List.forall_mem_cons.mp earlier
        rw [List.cons_append, lookupVariable_undeclared silent, ih rest]

end Entries

theorem statedVariable_eq_ok {i : Inspection} {container name value : String} :
    statedVariable i container name = .ok value ↔
      FirstDeclares (i.environment.getD []) name value := by
  rw [← lookupVariable_eq_some, statedVariable]
  cases lookupVariable (i.environment.getD []) name <;> simp

theorem statedVariable_eq_error {i : Inspection} {container name : String} {f : Failure} :
    statedVariable i container name = .error f ↔ f = .variableNotFound name container ∧
      ∀ entry ∈ i.environment.getD [], ∀ value, ¬ Declares entry name value := by
  rw [← lookupVariable_eq_none, statedVariable]
  cases lookupVariable (i.environment.getD []) name <;> simp [eq_comm]

/-! ## Mounts -/

/-- Where a container sees a secret. -/
def secretPlace (name : String) : String := "/run/secrets/" ++ name

/-- A mount is the first one of some at a place. -/
def FirstAt (mounts : List Mount) (place : String) (m : Mount) : Prop :=
  m.destination = some place ∧ ∃ before after, mounts = before ++ m :: after ∧
    ∀ earlier ∈ before, earlier.destination ≠ some place

theorem secretPlace_eq (name : String) : s!"{secretsDirectory}/{name}" = secretPlace name := by
  show "/run/secrets" ++ "/" ++ name = "/run/secrets/" ++ name
  rfl

theorem secretMount?_eq_some {i : Inspection} {name : String} {m : Mount} :
    secretMount? i name = some m ↔ FirstAt (i.mounts.getD []) (secretPlace name) m := by
  rw [secretMount?, secretPlace_eq, List.find?_eq_some_iff_append, FirstAt]
  simp only [decide_eq_true_eq, Bool.not_eq_true', decide_eq_false_iff_not]

theorem secretMount?_eq_none {i : Inspection} {name : String} :
    secretMount? i name = none ↔
      ∀ m ∈ i.mounts.getD [], m.destination ≠ some (secretPlace name) := by
  rw [secretMount?, secretPlace_eq, List.find?_eq_none]
  simp only [decide_eq_true_eq, ne_eq]

/-- A mount's own source is where its file is. -/
theorem secretPath_source {home : String} {c : Context} {m : Mount} {name source : String}
    (stated : m.source = some source) (something : source ≠ "") :
    secretPath home c m name = source := by
  rw [secretPath, stated, Option.filter_some, if_pos (decide_eq_true something)]

/-- The file of a mount that states no source is among the project's secrets. -/
theorem secretPath_project {home : String} {c : Context} {m : Mount} {name : String}
    (unstated : m.source = none ∨ m.source = some "") : secretPath home c m name =
      Path.join (Path.join ((c.directory? home).getD "") "secrets") name := by
  rw [secretPath]
  rcases unstated with none | empty
  · rw [none]
    rfl
  · rw [empty]
    rfl

/-! ## Secrets -/

section Secrets

variable {client : Client} {c : Context} {container name : String} {w : World} {t after : Trace}
  {i : Inspection}

/-- Inspecting a container sends one request, and does nothing else. -/
theorem inspect_trace (inspected : client.inspect container w t = (.ok i, after)) :
    after = t.asked [.inspect container] :=
  (congrArg Prod.snd inspected).symm

theorem containerVariable_inspected (inspected : client.inspect container w t = (.ok i, after)) :
    containerVariable client container name w t = (statedVariable i container name, after) :=
  Act.bind_ok inspected

/-- A secret with a mount is what reading the file of the mount gives. -/
theorem secret_mounted (inspected : client.inspect container w t = (.ok i, after)) {m : Mount}
    (mounted : secretMount? i name = some m) : secret client c container name w t =
      c.readText (secretPath w.environment.home c m name) w after := by
  rw [secret, Act.bind_ok inspected, mounted]
  rfl

/-- A secret without a mount is a variable. -/
theorem secret_unmounted (inspected : client.inspect container w t = (.ok i, after))
    (unmounted : secretMount? i name = none) :
    secret client c container name w t = (statedVariable i container name, after) := by
  rw [secret, Act.bind_ok inspected, unmounted]
  rfl

end Secrets

/-- **A mounted secret wins.** If a container cannot be inspected, that is the result.

If a mount stands where the container sees the secret, the secret is what reading one file gives,
be it a text or a failure: the source of the first such mount, or the file of that name among
the secrets of the project if the mount states no source. Another container with the same
mounts, whatever variables it has, makes no difference.

Without such a mount the secret is the container's variable of that name, in whatever world it
is looked up, and all that has been done is to inspect the container. A variable has the value
that the first entry declares that declares one, and is not found exactly if no entry does;
entries without an equals sign declare nothing, and no entry declares a name that has one. -/
theorem mounted_secret_wins (client : Client) (c : Context) (container name : String) (w : World)
    (t : Trace) :
    (∀ f after, client.inspect container w t = (.error f, after) →
      secret client c container name w t = (.error f, after) ∧
      containerVariable client container name w t = (.error f, after)) ∧
    (∀ i after, client.inspect container w t = (.ok i, after) →
      let mounts := i.mounts.getD []
      let entries := i.environment.getD []
      let place := "/run/secrets/" ++ name
      (∀ m, FirstAt mounts place m →
        (∀ source, m.source = some source → source ≠ "" →
          secret client c container name w t = c.readText source w after) ∧
        (m.source = none ∨ m.source = some "" →
          secret client c container name w t = c.readText
            (Path.join (Path.join ((c.directory? w.environment.home).getD "") "secrets") name)
            w after) ∧
        ∀ (client' : Client) i' after', client'.inspect container w t = (.ok i', after') →
          i'.mounts = i.mounts →
          secret client' c container name w t = secret client c container name w t) ∧
      ((∀ m ∈ mounts, m.destination ≠ some place) → ∀ w',
        secret client c container name w' t = containerVariable client container name w t ∧
        (secret client c container name w' t).2 = t.asked [.inspect container]) ∧
      (∀ value, containerVariable client container name w t = (.ok value, after) ↔
        FirstDeclares entries name value) ∧
      (containerVariable client container name w t =
          (.error (.variableNotFound name container), after) ↔
        ∀ entry ∈ entries, ∀ value, ¬ Declares entry name value)) ∧
    ∀ entry value, '=' ∉ entry.toList ∨ '=' ∈ name.toList → ¬ Declares entry name value := by
  refine ⟨fun f after failed => ⟨Act.bind_error failed, Act.bind_error failed⟩,
    fun i after inspected => ⟨fun m first => ?_, fun unmounted w' => ?_, fun value => ?_, ?_⟩,
    fun entry value unfit declares => ?_⟩
  · have mounted : secretMount? i name = some m := secretMount?_eq_some.mpr first
    have reads := secret_mounted (c := c) inspected mounted
    refine ⟨fun source stated something => ?_, fun unstated => ?_,
      fun client' i' after' inspected' same => ?_⟩
    · rw [reads, secretPath_source stated something]
    · rw [reads, secretPath_project unstated]
    · have mounted' : secretMount? i' name = some m := by
        rw [secretMount?, same]
        exact mounted
      -- inspecting leaves the same behind, whatever is found
      have traces : after' = after := by
        rw [inspect_trace inspected', inspect_trace inspected]
      rw [secret_mounted inspected' mounted', reads, traces]
  · have unmounted : secretMount? i name = none := secretMount?_eq_none.mpr unmounted
    have inspected' : client.inspect container w' t = (.ok i, after) := inspected
    rw [secret_unmounted inspected' unmounted, containerVariable_inspected inspected]
    exact ⟨rfl, inspect_trace inspected⟩
  · rw [containerVariable_inspected inspected, Prod.mk.injEq, and_iff_left rfl]
    exact statedVariable_eq_ok
  · rw [containerVariable_inspected inspected, Prod.mk.injEq, and_iff_left rfl,
      statedVariable_eq_error, and_iff_right rfl]
  · rcases unfit with free | present
    · exact not_declares_of_not_mem free name value declares
    · exact declares.1 present

/-! ## A container with a mounted key -/

/-- Variables, one of them of a key's name. -/
def keyVariables : List String :=
  ["NOISE", "KEY=stated", "PAIR=a=b", "PAIR=c", "DB_ROOT_PASSWORD=pa/ss"]

/-- A container with two mounts for its key, the first of which states no source. -/
def keyContainer : Docker.Container where
  summary := searchContainer.summary
  inspection := some (.object [
    ("Mounts", .array [
      .object [("Source", .text "/old"), ("Destination", .text "/run/secrets/KEY.old")],
      .object [("Source", .text ""), ("Destination", .text "/run/secrets/KEY")],
      .object [("Source", .text "/new"), ("Destination", .text "/run/secrets/KEY")]]),
    ("Config", .object [("Env", .texts keyVariables)])])

/-- A client of a daemon with this container. -/
def keyClient : Client where
  daemon := { searchDaemon with containers := [keyContainer] }
  socket := "/var/run/docker.sock"
  version := .newest

/-- A world in which the key is among the secrets of the project. -/
def keyWorld : World :=
  { galleryWorld with files := {
      entries := [(["srv", "gallery", "secrets", "KEY"], .file [107, 101, 112, 116, 10] false)]
      workDirectory := [] } }

/-- What is read of the container. -/
def keyInspection : Inspection where
  networks := none
  environment := some keyVariables
  mounts := some [⟨some "/old", some "/run/secrets/KEY.old"⟩, ⟨some "", some "/run/secrets/KEY"⟩,
    ⟨some "/new", some "/run/secrets/KEY"⟩]

theorem keyClient_inspect (w : World) (t : Trace) : keyClient.inspect "search" w t =
    (.ok keyInspection, t.asked [.inspect "search"]) := by
  have read : (keyClient.inspect "search" keyWorld {}).1 = .ok keyInspection := by
    decide +kernel
  exact Prod.ext read rfl

/-- The mount that the key is read from. -/
def keyMount : Mount := ⟨some "", some "/run/secrets/KEY"⟩

theorem keyMount_first :
    FirstAt (keyInspection.mounts.getD []) ("/run/secrets/" ++ "KEY") keyMount :=
  ⟨rfl, [⟨some "/old", some "/run/secrets/KEY.old"⟩],
    [⟨some "/new", some "/run/secrets/KEY"⟩], rfl, by decide⟩

/-- The key is that of the project also where it cannot be read, although there is a variable of
its name; a variable is not found by an entry that declares nothing. -/
theorem mounted_key_wins :
    (secret keyClient gallery "search" "KEY" keyWorld {}).1 = .ok "kept\n" ∧
    (secret keyClient gallery "search" "KEY" galleryWorld {}).1 =
      .error (.fileRead "/srv/gallery/secrets/KEY" .notFound) ∧
    (secret keyClient gallery "search" "PAIR" keyWorld {}).1 = .ok "a=b" ∧
    (secret keyClient gallery "search" "NOISE" keyWorld {}).1 =
      .error (.variableNotFound "NOISE" "search") := by
  obtain ⟨-, kept, -⟩ := mounted_secret_wins keyClient gallery "search" "KEY" keyWorld {}
  obtain ⟨-, lost, -⟩ := mounted_secret_wins keyClient gallery "search" "KEY" galleryWorld {}
  obtain ⟨-, pair, -⟩ := mounted_secret_wins keyClient gallery "search" "PAIR" keyWorld {}
  obtain ⟨-, noise, -⟩ := mounted_secret_wins keyClient gallery "search" "NOISE" keyWorld {}
  obtain ⟨mounted, -⟩ := kept _ _ (keyClient_inspect _ _)
  obtain ⟨unread, -⟩ := lost _ _ (keyClient_inspect _ _)
  obtain ⟨-, stated, paired, -⟩ := pair _ _ (keyClient_inspect _ _)
  obtain ⟨-, looked, -, missing⟩ := noise _ _ (keyClient_inspect _ _)
  refine ⟨?_, ?_, ?_, ?_⟩
  · rw [(mounted _ keyMount_first).2.1 (.inr rfl)]
    decide +kernel
  · rw [(unread _ keyMount_first).2.1 (.inr rfl)]
    decide +kernel
  · have declared := lookupVariable_eq_some.mp
      (by decide : lookupVariable (keyInspection.environment.getD []) "PAIR" = some "a=b")
    rw [(stated (by decide) keyWorld).1, (paired "a=b").mpr declared]
  · have undeclared := lookupVariable_eq_none.mp
      (by decide : lookupVariable (keyInspection.environment.getD []) "NOISE" = none)
    rw [(looked (by decide) keyWorld).1, missing.mpr undeclared]

end ComposeSite.Compose
