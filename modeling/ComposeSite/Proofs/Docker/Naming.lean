/-
# ComposeSite.Proofs.Docker.Naming -- containers by name

A daemon lets containers be called by letters, digits and a few signs, the first of which is
a letter or a digit (`Legal`).  Such a name goes through the target of a request unharmed, so
that the daemon takes the request to be about the container of that name
(`addressed?_inspect`, `addressed?_createExec`).  Where no name belongs to two containers, a
container is found by each of its names (`named?_eq`).
-/
import ComposeSite.Docker.Daemon
import ComposeSite.Proofs.Http.Location

set_option autoImplicit false

namespace ComposeSite.Docker

open Http (Location)

/-! ## Names -/

/-- Whether a character may stand in the name of a container. -/
def inName (ch : Char) : Bool := ch.isAlphanum || ch = '_' || ch = '.' || ch = '-'

/-- A daemon lets a container be called by a name. -/
def Legal (name : String) : Prop :=
  ∃ first rest, name.toList = first :: rest ∧ first.isAlphanum = true ∧ rest.all inName = true

namespace Legal

variable {name : String} (legal : Legal name)

include legal

theorem inName : ∀ ch ∈ name.toList, inName ch = true := by
  obtain ⟨first, rest, spelled, starts, inside⟩ := legal
  rw [spelled]
  refine List.forall_mem_cons.mpr ⟨?_, List.all_eq_true.mp inside⟩
  rw [Docker.inName, starts]
  rfl

/-- Names have no special characters. -/
theorem clean : ∀ ch ∈ name.toList, ch ∉ Location.special := by
  have foreign : (Location.special.all fun ch => !Docker.inName ch) = true := by decide
  intro ch mem special
  have outside := List.all_eq_true.mp foreign ch special
  rw [legal.inName ch mem] at outside
  cases outside

end Legal

theorem isAlphanum_toLower {ch : Char} (plain : ch.isAlphanum = true) :
    ch.toLower.isAlphanum = true := by
  unfold Char.toLower
  split
  · rename_i upper
    obtain ⟨low, high⟩ := upper
    have low' : 65 ≤ ch.val.toNat := UInt32.le_iff_toNat_le.mp low
    have high' : ch.val.toNat ≤ 90 := UInt32.le_iff_toNat_le.mp high
    have value : (ch.val + ('a'.val - 'A'.val)).toNat = ch.val.toNat + 32 := by
      rw [UInt32.toNat_add]
      exact Nat.mod_eq_of_lt (show ch.val.toNat + 32 < 2 ^ 32 by omega)
    unfold Char.isAlphanum Char.isAlpha Char.isLower
    simp only [Bool.or_eq_true, Bool.and_eq_true, decide_eq_true_eq]
    refine .inl (.inr ⟨?_, ?_⟩)
    · refine UInt32.le_iff_toNat_le.mpr ?_
      rw [value]
      show 97 ≤ _
      omega
    · refine UInt32.le_iff_toNat_le.mpr ?_
      rw [value]
      show _ ≤ 122
      omega
  · exact plain

/-- Names are segments of paths. -/
theorem Legal.plain {name : String} (legal : Legal name) : Location.Plain name.toList := by
  obtain ⟨first, rest, spelled, starts, inside⟩ := id legal
  -- whatever stands for a directory starts with a dot or a percent sign
  have differs {dots : String} {sign : Char} {more : List Char}
      (spells : dots.toList = sign :: more) (noLetter : sign.isAlphanum = false) :
      (String.ofList name.toList).toLower ≠ dots := by
    intro same
    have letter := isAlphanum_toLower starts
    have chars := congrArg String.toList same
    unfold String.toLower at chars
    rw [String.toList_map, String.toList_ofList, spelled, List.map_cons, spells] at chars
    rw [(List.cons.inj chars).1, noLetter] at letter
    cases letter
  refine ⟨legal.clean, ?_, ?_⟩
  · rw [Location.isDot, Bool.or_eq_false_iff]
    refine ⟨decide_eq_false fun same => ?_, decide_eq_false (differs rfl (by decide))⟩
    rw [spelled] at same
    rw [(List.cons.inj same).1] at starts
    cases starts
  · rw [Location.isDoubleDot, Bool.eq_false_iff]
    intro isDots
    rw [List.contains_iff_mem] at isDots
    simp only [List.mem_cons, List.not_mem_nil, or_false] at isDots
    rcases isDots with same | same | same | same
    all_goals exact differs rfl (by decide) same

/-! ## Requests -/

/-- The container that a daemon takes a request to be about: it goes by the name between the
other segments of the request's path. -/
def Daemon.addressed? (d : Daemon) (r : Request) : Option Container :=
  match r with
  | .inspect _ => (Daemon.nameBetween? "/containers/" "/json" r.location.path).bind d.named?
  | .createExec .. => (Daemon.nameBetween? "/containers/" "/exec" r.location.path).bind d.named?
  | _ => none

/-- What is put between two parts is found between them. -/
theorem nameBetween?_append (before name after : String) :
    Daemon.nameBetween? before after (before ++ name ++ after) = some name := by
  have front : before.toList.isPrefixOf (before.toList ++ name.toList ++ after.toList) := by
    rw [List.append_assoc]
    exact List.isPrefixOf_iff_prefix.mpr (List.prefix_append _ _)
  have back : after.toList.isSuffixOf (before.toList ++ name.toList ++ after.toList) :=
    List.isSuffixOf_iff_suffix.mpr (List.suffix_append _ _)
  have long : before.toList.length + after.toList.length ≤
      (before.toList ++ name.toList ++ after.toList).length := by
    simp only [List.length_append]
    omega
  have between : (before.toList ++ name.toList ++ after.toList).length - before.toList.length -
      after.toList.length = name.toList.length := by
    simp only [List.length_append]
    omega
  rw [Daemon.nameBetween?, String.toList_append, String.toList_append]
  simp only [front, back, long, decide_true, Bool.and_self, if_true, between]
  rw [List.append_assoc, List.drop_left, List.take_left, String.ofList_toList]

/-- A name is the second of three segments. -/
theorem path_containers {name verb : String} (legal : Legal name) (plain : Legal verb) :
    (Location.ofTarget ("/containers/" ++ name ++ ("/" ++ verb))).path =
      "/containers/" ++ name ++ ("/" ++ verb) := by
  have containers : Legal "containers" := ⟨'c', _, rfl, by decide, by decide⟩
  refine Location.ofTarget_plain
    (List.cons_ne_nil "containers".toList [name.toList, verb.toList]) ?_ ?_
  · simp only [List.mem_cons, List.not_mem_nil, or_false]
    rintro s (rfl | rfl | rfl)
    · exact containers.plain
    · exact legal.plain
    · exact plain.plain
  · have slash : ("/" ++ verb).toList = '/' :: verb.toList := String.toList_append
    rw [String.toList_append, String.toList_append, slash, Text.join, Text.join, Text.join]
    · rw [show "/containers/".toList = '/' :: ("containers".toList ++ ['/']) from rfl]
      simp only [List.cons_append, List.append_assoc, List.nil_append]
    · intro same
      cases same
    · intro same
      cases same

section Requests

variable {d : Daemon} {name : String} (legal : Legal name)

include legal

/-- A daemon finds a legal name in the path that it was put into. -/
theorem nameBetween?_path {verb : String} (plain : Legal verb) :
    Daemon.nameBetween? "/containers/" ("/" ++ verb)
      (Location.ofTarget ("/containers/" ++ name ++ ("/" ++ verb))).path = some name := by
  rw [path_containers legal plain, nameBetween?_append]

theorem addressed?_inspect : d.addressed? (.inspect name) = d.named? name := by
  have json : Legal "json" := ⟨'j', _, rfl, by decide, by decide⟩
  exact congrArg (Option.bind · d.named?) (nameBetween?_path legal json)

theorem addressed?_createExec {config : ExecConfig} :
    d.addressed? (.createExec name config) = d.named? name := by
  have exec : Legal "exec" := ⟨'e', _, rfl, by decide, by decide⟩
  exact congrArg (Option.bind · d.named?) (nameBetween?_path legal exec)

end Requests

/-! ## Finding containers -/

/-- No name belongs to two containers. -/
def Daemon.Distinct (d : Daemon) : Prop :=
  d.containers.Pairwise fun k k' => ∀ name ∈ k.names, name ∉ k'.names

/-- A container is found by each of its names. -/
theorem named?_eq {d : Daemon} (distinct : d.Distinct) {k : Container} (mem : k ∈ d.containers)
    {name : String} (named : "/" ++ name ∈ k.names) : d.named? name = some k := by
  rw [Daemon.named?]
  rw [Daemon.Distinct] at distinct
  generalize d.containers = containers at distinct mem
  induction distinct with
  | nil => cases mem
  | cons apart distinct ih =>
      rcases List.mem_cons.mp mem with rfl | mem
      · exact List.find?_cons_of_pos (List.contains_iff_mem.mpr named)
      · rw [List.find?_cons_of_neg, ih mem]
        intro other
        exact apart k mem _ (List.contains_iff_mem.mp other) named

/-- Containers go by a slash and a legal name, and no name belongs to two of them. -/
structure Daemon.WellNamed (d : Daemon) : Prop where
  legal : ∀ k ∈ d.containers, ∀ full ∈ k.names, ∃ name, full = "/" ++ name ∧ Legal name
  distinct : d.Distinct

end ComposeSite.Docker
