/-
# ComposeSite.Proofs.Compose.Lookup -- which container a lookup finds

A lookup asks the daemon for the containers with a project's and a service's label, and takes
the first name of the first of them that has one.  On a daemon that lists its containers as
it should, that is the first name of the container that `running?` stands for
(`findContainer_found`); where there is none, the lookup fails with what it looked for
(`findContainer_missing`).  In both cases the daemon has been asked once, for its list.
-/
import ComposeSite.Compose.Lookup
import ComposeSite.Proofs.Docker.Listing

set_option autoImplicit false

namespace ComposeSite

open Docker (Client Container Daemon Legal)

/-! ## Labels -/

namespace Text

variable {α : Type} [DecidableEq α]

theorem splitOnce?_append {separator : α} {before : List α} (first : separator ∉ before)
    (after : List α) :
    splitOnce? separator (before ++ separator :: after) = some (before, after) := by
  induction before with
  | nil => exact if_pos rfl
  | cons a before ih =>
      rw [List.cons_append, splitOnce?, if_neg (Ne.symm (List.ne_of_not_mem_cons first)),
        ih (List.not_mem_of_not_mem_cons first)]
      rfl

theorem splitOnce?_eq_none {separator : α} {text : List α} :
    splitOnce? separator text = none ↔ separator ∉ text := by
  induction text with
  | nil => exact iff_of_true rfl List.not_mem_nil
  | cons a text ih =>
      rw [splitOnce?, List.mem_cons, not_or]
      split
      · rename_i same
        exact iff_of_false (Option.some_ne_none _) fun free => free.1 same.symm
      · rename_i other
        rw [Option.map_eq_none_iff, ih]
        exact (and_iff_right (Ne.symm other)).symm

/-- A text is cut at its first separator. -/
theorem splitOnce?_eq_some {separator : α} {text before after : List α} :
    splitOnce? separator text = some (before, after) ↔
      separator ∉ before ∧ text = before ++ separator :: after := by
  constructor
  · intro cut
    have present : separator ∈ text := by
      by_contra free
      rw [splitOnce?_eq_none.mpr free] at cut
      cases cut
    obtain ⟨first, rest, rfl, free⟩ := List.eq_append_cons_of_mem present
    rw [splitOnce?_append free] at cut
    cases cut
    exact ⟨free, rfl⟩
  · rintro ⟨free, rfl⟩
    exact splitOnce?_append free after

end Text

/-- A filter with a value is satisfied by the containers whose label has that value. -/
theorem Docker.Container.satisfies_label (k : Container) (key value : String)
    (plain : '=' ∉ key.toList) :
    k.satisfies (key ++ "=" ++ value) = (k.label? key == some value) := by
  have chars : (key ++ "=" ++ value).toList = key.toList ++ '=' :: value.toList := by
    rw [String.toList_append, String.toList_append, List.append_assoc]
    rfl
  rw [satisfies, chars, Text.splitOnce?_append plain]
  show (k.label? (String.ofList key.toList) == some (String.ofList value.toList)) = _
  rw [String.ofList_toList, String.ofList_toList]

namespace Compose

/-- A service as containers are labelled with it: with the profile behind a dash, if the
context has one. -/
def labelled (c : Context) (service : String) : String :=
  match c.profile with
  | none => service
  | some profile => if profile = "" then service else service ++ "-" ++ profile

theorem serviceName_eq (c : Context) (service : String) :
    serviceName c service true = labelled c service := by
  rw [serviceName, labelled, Context.activeProfile?]
  cases c.profile with
  | none => rfl
  | some profile =>
      by_cases isEmpty : profile = ""
      · subst isEmpty
        rfl
      · have active : (some profile).filter (· ≠ "") = some profile :=
          Option.filter_eq_some_iff.mpr ⟨rfl, decide_eq_true isEmpty⟩
        rw [active]
        simp only [if_true, if_neg isEmpty]
        rfl

/-- The first container of a project's service, in the order of the daemon, that has a name. -/
def running? (d : Daemon) (project service : String) : Option Container :=
  d.containers.find? fun k =>
    k.label? projectLabel == some project && k.label? serviceLabel == some service &&
      !k.names.isEmpty

theorem running?_spec {d : Daemon} {project service : String} {k : Container}
    (found : running? d project service = some k) : k ∈ d.containers ∧
      k.label? projectLabel = some project ∧ k.label? serviceLabel = some service ∧
      k.names ≠ [] := by
  have holds := List.find?_some found
  simp only [Bool.and_eq_true, beq_iff_eq, Bool.not_eq_true', List.isEmpty_eq_false_iff] at holds
  exact ⟨List.mem_of_find?_eq_some found, holds.1.1, holds.1.2, holds.2⟩

theorem satisfies_serviceLabels (c : Context) (service : String) (k : Container) :
    (serviceLabels c service).all k.satisfies =
      (k.label? projectLabel == some c.projectName && k.label? serviceLabel == some service) := by
  have project := k.satisfies_label projectLabel c.projectName (by decide)
  have byService := k.satisfies_label serviceLabel service (by decide)
  show (k.satisfies (projectLabel ++ "=" ++ c.projectName) &&
    (k.satisfies (serviceLabel ++ "=" ++ service) && true)) = _
  rw [project, byService, Bool.and_true]

/-! ## Lookups -/

/-- The first name among containers is that of the first container that has one. -/
theorem findSome?_names (ks : List Container) :
    ks.findSome? (·.names.head?) = (ks.find? fun k => !k.names.isEmpty).bind (·.names.head?) := by
  induction ks with
  | nil => rfl
  | cons k ks ih =>
      cases names : k.names with
      | nil =>
          rw [List.findSome?_cons_of_isNone, List.find?_cons_of_neg, ih]
          · simp [names]
          · simp [names]
      | cons name more =>
          rw [List.findSome?_cons_of_isSome, List.find?_cons_of_pos]
          · rfl
          · simp [names]
          · simp [names]

/-- The name that a lookup takes from a daemon's list is the first name of the container that
runs the service. -/
theorem firstName?_matching (d : Daemon) (c : Context) (service : String) :
    firstName? ((d.matching (serviceLabels c service)).map Container.listed) =
      (running? d c.projectName service).bind (·.names.head?.map bareName) := by
  have listed : ((d.matching (serviceLabels c service)).map Container.listed).flatMap
      (fun s => s.names.getD []) = (d.matching (serviceLabels c service)).flatMap (·.names) := by
    rw [List.flatMap_map]
    exact congrArg (List.flatMap · _) (funext Container.names_listed)
  rw [firstName?, listed, List.head?_flatMap, findSome?_names, Daemon.matching, List.find?_filter,
    running?]
  have same : (fun k : Container => decide ((serviceLabels c service).all k.satisfies = true ∧
      (!k.names.isEmpty) = true)) = fun k => k.label? projectLabel == some c.projectName &&
        k.label? serviceLabel == some service && !k.names.isEmpty := by
    funext k
    rw [satisfies_serviceLabels, Bool.decide_and, Bool.decide_coe, Bool.decide_coe]
  rw [same]
  exact Option.map_bind

/-- The slash before a legal name is dropped, and nothing else. -/
theorem bareName_legal {name : String} (legal : Legal name) : bareName ("/" ++ name) = name := by
  obtain ⟨first, rest, spelled, starts, -⟩ := legal
  have noSlash : first ≠ '/' := by
    rintro rfl
    cases starts
  have chars : ("/" ++ name).toList = '/' :: first :: rest := by
    rw [String.toList_append, spelled]
    rfl
  have kept : (first :: rest).dropWhile (· = '/') = first :: rest :=
    List.dropWhile_cons_of_neg (by rw [decide_eq_true_eq]; exact noSlash)
  rw [bareName, chars]
  show String.ofList ((first :: rest).dropWhile (· = '/')) = name
  rw [kept, ← spelled, String.ofList_toList]

/-- The container that runs a service is known to the daemon by its first name. -/
theorem running?_name {d : Daemon} (wellNamed : d.WellNamed) {project service : String}
    {k : Container} (found : running? d project service = some k) :
    ∃ name, k.names.head? = some ("/" ++ name) ∧ Legal name ∧ d.named? name = some k := by
  obtain ⟨mem, -, -, named⟩ := running?_spec found
  obtain ⟨full, more, names⟩ := List.exists_cons_of_ne_nil named
  have first : full ∈ k.names := by rw [names]; exact List.mem_cons_self
  obtain ⟨name, rfl, legal⟩ := wellNamed.legal k mem full first
  exact ⟨name, by rw [names]; rfl, legal, Docker.named?_eq wellNamed.distinct mem first⟩

variable {client : Client} {c : Context} {service : String}

/-- A lookup asks the daemon once, and gives the first name of the container that runs the
service. -/
theorem findContainer_eq (regular : client.daemon.Regular) (w : World) (t : Trace) :
    findContainer client c service w t =
      (((running? client.daemon c.projectName (labelled c service)).bind
        (·.names.head?.map bareName)).elim (.error (.containerNotFound service c.projectName)) .ok,
      t.asked [.list (serviceLabels c (labelled c service))]) := by
  have lists := Docker.list_matching regular (serviceLabels c (serviceName c service true)) w t
  have named : containerName client c service true w t =
      (.ok (firstName? ((client.daemon.matching
        (serviceLabels c (serviceName c service true))).map Container.listed)),
      t.asked [.list (serviceLabels c (serviceName c service true))]) :=
    Act.bind_ok lists
  rw [findContainer, Act.bind_ok named, firstName?_matching, serviceName_eq]
  generalize (running? client.daemon c.projectName (labelled c service)).bind
    (·.names.head?.map bareName) = name?
  cases name? with
  | none => rfl
  | some name => rfl

/-- A lookup that finds a name finds the first name of the container that runs the service. -/
theorem findContainer_found (regular : client.daemon.Regular)
    (wellNamed : client.daemon.WellNamed) {w : World} {t : Trace} {name : String}
    (found : (findContainer client c service w t).1 = .ok name) :
    ∃ k, running? client.daemon c.projectName (labelled c service) = some k ∧
      k.names.head? = some ("/" ++ name) ∧ Legal name ∧ client.daemon.named? name = some k := by
  rw [findContainer_eq regular] at found
  cases runs : running? client.daemon c.projectName (labelled c service) with
  | none =>
      rw [runs] at found
      cases found
  | some k =>
      obtain ⟨first, names, legal, named⟩ := running?_name wellNamed runs
      rw [runs, Option.bind_some, names, Option.map_some, bareName_legal legal] at found
      cases found
      exact ⟨k, rfl, names, legal, named⟩

/-- Where no container runs a service, a lookup tells so. -/
theorem findContainer_missing (regular : client.daemon.Regular)
    (missing : running? client.daemon c.projectName (labelled c service) = none) (w : World)
    (t : Trace) : findContainer client c service w t =
      (.error (.containerNotFound service c.projectName),
        t.asked [.list (serviceLabels c (labelled c service))]) := by
  rw [findContainer_eq regular, missing]
  rfl

end Compose

end ComposeSite
