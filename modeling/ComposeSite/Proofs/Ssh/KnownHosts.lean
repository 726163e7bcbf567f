/-
# ComposeSite.Proofs.Ssh.KnownHosts -- what a list of known hosts says of a presented key

What is said depends only on which keys are listed for the host: one that rivals the presented
key, of its algorithm and another one, is decisive (`classify_eq_matching`,
`classify_eq_unknown`, `classify_eq_changed`).  Each line lists at most one key, whatever stands
on the others and whether or not its end is there (`mem_keys_entriesFrom`, `lineKey?_lineFeed`),
so the order of the lines does not matter (`entries_sameLines`).

A key that is listed beside a rival of it counts as changed, and one whose host is listed with
keys of other algorithms only counts as unknown; everywhere else what is said agrees with whether
the key is listed and whether the host is (`verify_status`).
-/
import ComposeSite.Proofs.Text.Lines
import ComposeSite.Ssh.KnownHosts
import Mathlib.Data.List.Basic

set_option autoImplicit false

namespace ComposeSite

namespace Text

/-- A character that is no separator goes to the last part. -/
theorem split_concat {α : Type} [DecidableEq α] {sep a : α} (other : a ≠ sep) (text : List α) :
    split sep (text ++ [a]) = complete sep text ++ [unfinished sep text ++ [a]] := by
  have last : unfinished sep text ∈ split sep text := by
    rw [split_eq]
    exact List.mem_append_right _ (List.mem_singleton_self _)
  have free : sep ∉ unfinished sep text ++ [a] := by
    rw [List.mem_append, List.mem_singleton, not_or]
    exact ⟨separator_not_mem sep last, other.symm⟩
  rw [split_append, split_of_not_mem sep free]

end Text

/-! ## Line ends behind a key -/

namespace Base64

theorem placed_append {α : Type} (n : Nat) (as bs : List α) :
    placed n (as ++ bs) = placed n as ++ placed (n + as.length) bs := by
  induction as generalizing n with
  | nil => rfl
  | cons a as ih =>
      have next : n + 1 + as.length = n + (a :: as).length := by
        rw [List.length_cons]
        omega
      rw [List.cons_append, placed, placed, ih, next, List.cons_append]

theorem decode_lineFeed (cs : List Char) : decode (cs ++ ['\n']) = decode cs := by
  simp [decode, placed_append, placed]

end Base64

namespace Ssh

theorem PublicKey.ofBase64_lineFeed (cs : List Char) :
    PublicKey.ofBase64 (cs ++ ['\n']) = PublicKey.ofBase64 cs := by
  simp only [PublicKey.ofBase64, Base64.decode_lineFeed]

namespace KnownHosts

/-! ## What one line lists -/

/-- The key that a line lists for a host, if it lists one. -/
def lineKey? (host : String) (bs : Bytes) : Except KeyFailure (Option PublicKey) :=
  match Text.Utf8.decode? bs with
  | none => .error (.file .notText)
  | some line =>
      if line.toList.head? = some '#' then .ok none
      else
        match Text.split ' ' line.toList with
        | names :: _ :: key :: _ =>
            if namesMatch host names then (PublicKey.ofBase64 key).map some else .ok none
        | _ => .ok none

/-- The empty line lists nothing. -/
theorem lineKey?_nil (host : String) : lineKey? host [] = .ok none := rfl

/-- The end of a line does not matter. -/
theorem lineKey?_lineFeed (host : String) (bs : Bytes) :
    lineKey? host (bs ++ [10]) = lineKey? host bs := by
  have units : Text.Utf8.units (bs ++ [10]) = Text.Utf8.units bs ++ [some '\n'] :=
    Text.Utf8.unitsFrom_lineFeed .ground bs []
  have decoded : Text.Utf8.decode? (bs ++ [10]) =
      (Text.Utf8.decode? bs).map fun s => String.ofList (s.toList ++ ['\n']) := by
    rw [Text.Utf8.decode?, Text.Utf8.decode?, units, List.mapM_append]
    cases (Text.Utf8.units bs).mapM id <;> simp
  rw [lineKey?, lineKey?, decoded]
  cases Text.Utf8.decode? bs with
  | none => rfl
  | some line =>
      have remark : (line.toList ++ ['\n']).head? = some '#' ↔ line.toList.head? = some '#' := by
        cases line.toList <;> simp
      simp only [Option.map_some, String.toList_ofList, remark,
        Text.split_concat (by decide : '\n' ≠ ' '), Text.split_eq ' ' line.toList]
      -- the third field is the last one, or it stands before the last one
      rcases Text.complete ' ' line.toList with _ | ⟨names, _ | ⟨kind, _ | ⟨key, fields⟩⟩⟩
      · rfl
      · rfl
      · simp only [List.cons_append, List.nil_append, PublicKey.ofBase64_lineFeed]
      · rfl

/-! ## What the lines list together -/

section Lines

variable {host : String} {number : Nat} {lines : List Bytes} {listed : List Entry}

/-- A line adds the key that it lists. -/
theorem entriesFrom_cons (host : String) (number : Nat) (bs : Bytes) (rest : List Bytes) :
    ∃ next, entriesFrom host number (bs :: rest) = (do
      let key ← lineKey? host bs
      let more ← entriesFrom host next rest
      pure ((key.map (Entry.mk number)).toList ++ more)) := by
  have silent (next : Nat) : entriesFrom host next rest = (do
      let more ← entriesFrom host next rest
      pure ([] ++ more)) := by
    cases entriesFrom host next rest <;> rfl
  simp only [entriesFrom, lineKey?]
  cases Text.Utf8.decode? bs with
  | none => exact ⟨number, rfl⟩
  | some line =>
      by_cases remark : line.toList.head? = some '#'
      · simp only [if_pos remark]
        exact ⟨number, silent number⟩
      · refine ⟨number + 1, ?_⟩
        simp only [if_neg remark]
        rcases Text.split ' ' line.toList with _ | ⟨names, _ | ⟨kind, _ | ⟨key, fields⟩⟩⟩
        · exact silent (number + 1)
        · exact silent (number + 1)
        · exact silent (number + 1)
        · by_cases named : namesMatch host names = true
          · simp only [if_pos named]
            cases PublicKey.ofBase64 key <;> rfl
          · simp only [if_neg named]
            exact silent (number + 1)

/-- Lines can be read if each of them can. -/
theorem exists_entriesFrom_iff : (∃ listed, entriesFrom host number lines = .ok listed) ↔
    ∀ bs ∈ lines, ∃ key, lineKey? host bs = .ok key := by
  induction lines generalizing number with
  | nil => simp [entriesFrom]
  | cons bs rest ih =>
      obtain ⟨next, reads⟩ := entriesFrom_cons host number bs rest
      rw [reads, List.forall_mem_cons, ← @ih next]
      cases lineKey? host bs with
      | error f => simp [bind, Except.bind]
      | ok key =>
          cases entriesFrom host next rest with
          | error f => simp [bind, Except.bind]
          | ok more => simp [bind, Except.bind, pure, Except.pure]

/-- The listed keys are those of the lines. -/
theorem mem_keys_entriesFrom (reads : entriesFrom host number lines = .ok listed)
    (key : PublicKey) :
    key ∈ listed.map Entry.key ↔ ∃ bs ∈ lines, lineKey? host bs = .ok (some key) := by
  induction lines generalizing number listed with
  | nil =>
      cases reads
      simp
  | cons bs rest ih =>
      obtain ⟨next, first⟩ := entriesFrom_cons host number bs rest
      rw [first] at reads
      cases own : lineKey? host bs with
      | error f => simp [own, bind, Except.bind] at reads
      | ok found =>
          cases later : entriesFrom host next rest with
          | error f => simp [own, later, bind, Except.bind] at reads
          | ok more =>
              rw [own, later] at reads
              cases reads
              simp only [List.map_append, List.mem_append, ih later, List.mem_cons,
                exists_eq_or_imp, own]
              refine or_congr_left ?_
              cases found <;> simp [eq_comm]

end Lines

/-! ## The order of the lines -/

section Order

open Text (split complete unfinished)

variable {host : String} {port : Nat} {content content' : Bytes} {listed : List Entry}

theorem mem_octetLines {bs : Bytes} : bs ∈ octetLines content ↔
    (∃ part ∈ complete 10 content, part ++ [10] = bs) ∨
      bs = unfinished 10 content ∧ bs ≠ [] := by
  have parts := Text.split_eq 10 content
  have last : (split 10 content).getLast? = some (unfinished 10 content) := by
    rw [parts, List.getLast?_concat]
  rw [octetLines, last, List.mem_append, List.mem_map]
  refine or_congr Iff.rfl ?_
  by_cases empty : unfinished 10 content = []
  · simp [empty]
  · simp only [ne_eq, Option.filter_some, decide_not, empty, decide_false, Bool.not_false,
      if_true, Option.toList_some, List.mem_singleton]
    constructor
    · rintro rfl
      exact ⟨rfl, empty⟩
    · exact And.left

/-- With and without their ends, the lines list the same. -/
theorem exists_octetLines {result : Except KeyFailure (Option PublicKey)}
    (something : result ≠ .ok none) :
    (∃ bs ∈ octetLines content, lineKey? host bs = result) ↔
      ∃ part ∈ split 10 content, lineKey? host part = result := by
  rw [Text.split_eq]
  simp only [mem_octetLines, List.mem_append, List.mem_singleton]
  constructor
  · rintro ⟨bs, ⟨part, complete, rfl⟩ | ⟨rfl, -⟩, lists⟩
    · exact ⟨part, .inl complete, lineKey?_lineFeed host part ▸ lists⟩
    · exact ⟨_, .inr rfl, lists⟩
  · rintro ⟨part, complete | rfl, lists⟩
    · exact ⟨_, .inl ⟨part, complete, rfl⟩, (lineKey?_lineFeed host part).trans lists⟩
    · refine ⟨_, .inr ⟨rfl, ?_⟩, lists⟩
      intro empty
      rw [empty, lineKey?_nil] at lists
      exact something lists.symm

/-- Files of the same lines list the same keys. -/
theorem entries_sameLines (same : ∀ part, part ∈ split 10 content' ↔ part ∈ split 10 content)
    (reads : entries host port content = .ok listed) :
    ∃ listed', entries host port content' = .ok listed' ∧
      ∀ key, key ∈ listed'.map Entry.key ↔ key ∈ listed.map Entry.key := by
  have transfer {result : Except KeyFailure (Option PublicKey)} (something : result ≠ .ok none) :
      (∃ bs ∈ octetLines content', lineKey? (hostName host port) bs = result) ↔
        ∃ bs ∈ octetLines content, lineKey? (hostName host port) bs = result := by
    rw [exists_octetLines something, exists_octetLines something]
    simp only [same]
  have legible := exists_entriesFrom_iff.mp ⟨listed, reads⟩
  obtain ⟨listed', reads'⟩ : ∃ listed', entries host port content' = .ok listed' := by
    refine exists_entriesFrom_iff.mpr fun bs line => ?_
    cases read : lineKey? (hostName host port) bs with
    | ok key => exact ⟨key, rfl⟩
    | error f =>
        obtain ⟨bs', line', fails⟩ := (transfer (by simp)).mp ⟨bs, line, read⟩
        obtain ⟨key, succeeds⟩ := legible bs' line'
        rw [succeeds] at fails
        cases fails
  refine ⟨listed', reads', fun key => ?_⟩
  rw [mem_keys_entriesFrom reads', mem_keys_entriesFrom reads]
  exact transfer (by simp)

end Order

/-! ## What the listed keys say -/

/-- The key of an entry is of a presented key's algorithm, and another one. -/
def Entry.Rivals (e : Entry) (key : PublicKey) : Prop :=
  e.key.algorithm = key.algorithm ∧ e.key ≠ key

instance (e : Entry) (key : PublicKey) : Decidable (e.Rivals key) :=
  inferInstanceAs (Decidable (_ ∧ _))

section Classify

variable {key : PublicKey} {listed listed' : List Entry}

/-- The first rival decides; without one it does whether the key is listed. -/
theorem classify_cases (key : PublicKey) (listed : List Entry) :
    (∃ before e after, listed = before ++ e :: after ∧ e.Rivals key ∧
      (∀ d ∈ before, ¬d.Rivals key) ∧ classify key listed = .changed e.line) ∨
    ((∀ e ∈ listed, ¬e.Rivals key) ∧
      ((key ∈ listed.map Entry.key ∧ classify key listed = .matching) ∨
        (key ∉ listed.map Entry.key ∧ classify key listed = .unknown))) := by
  rw [classify]
  cases found : listed.find? fun e => decide (e.key.algorithm = key.algorithm ∧ e.key ≠ key) with
  | some e =>
      obtain ⟨rivals, before, after, whole, earlier⟩ := List.find?_eq_some_iff_append.mp found
      refine .inl ⟨before, e, after, whole, of_decide_eq_true rivals, fun d member => ?_, rfl⟩
      show ¬(d.key.algorithm = key.algorithm ∧ d.key ≠ key)
      simpa only [Bool.not_eq_true', decide_eq_false_iff_not] using earlier d member
  | none =>
      refine .inr ⟨fun e member => ?_, ?_⟩
      · exact fun rivals => List.find?_eq_none.mp found e member (decide_eq_true rivals)
      · by_cases here : key ∈ listed.map Entry.key
        · obtain ⟨e, member, same⟩ := List.mem_map.mp here
          have any : (listed.any fun e => e.key = key) = true :=
            List.any_eq_true.mpr ⟨e, member, decide_eq_true same⟩
          exact .inl ⟨here, by rw [any]; rfl⟩
        · have none : (listed.any fun e => e.key = key) = false := by
            refine List.any_eq_false.mpr fun e member same => here ?_
            exact List.mem_map.mpr ⟨e, member, of_decide_eq_true same⟩
          exact .inr ⟨here, by rw [none]; rfl⟩

/-- A key matches if it is listed and none is that rivals it. -/
theorem classify_eq_matching : classify key listed = .matching ↔
    key ∈ listed.map Entry.key ∧ ∀ e ∈ listed, ¬e.Rivals key := by
  rcases classify_cases key listed with
    ⟨before, e, after, rfl, rivals, -, answer⟩ | ⟨none, ⟨here, answer⟩ | ⟨absent, answer⟩⟩
  · rw [answer]
    exact iff_of_false (by simp) fun ⟨_, unrivalled⟩ => unrivalled e (by simp) rivals
  · exact iff_of_true answer ⟨here, none⟩
  · rw [answer]
    exact iff_of_false (by simp) fun ⟨here, _⟩ => absent here

/-- A key is unknown if none of its algorithm is listed. -/
theorem classify_eq_unknown : classify key listed = .unknown ↔
    ∀ e ∈ listed, e.key.algorithm ≠ key.algorithm := by
  rcases classify_cases key listed with
    ⟨before, e, after, rfl, rivals, -, answer⟩ | ⟨none, ⟨here, answer⟩ | ⟨absent, answer⟩⟩
  · rw [answer]
    exact iff_of_false (by simp) fun others => others e (by simp) rivals.1
  · obtain ⟨e, member, same⟩ := List.mem_map.mp here
    rw [answer]
    exact iff_of_false (by simp) fun others => others e member (by rw [same])
  · refine iff_of_true answer fun e member kin => none e member ⟨kin, fun same => ?_⟩
    exact absent (List.mem_map.mpr ⟨e, member, same⟩)

/-- A key has changed if a rival of it is listed; the line is that of the first one. -/
theorem classify_eq_changed {line : Nat} : classify key listed = .changed line ↔
    ∃ before e after, listed = before ++ e :: after ∧ e.line = line ∧ e.Rivals key ∧
      ∀ d ∈ before, ¬d.Rivals key := by
  constructor
  · intro changed
    rcases classify_cases key listed with
      ⟨before, e, after, whole, rivals, first, answer⟩ | ⟨-, ⟨-, answer⟩ | ⟨-, answer⟩⟩
    · rw [answer, KeyStatus.changed.injEq] at changed
      exact ⟨before, e, after, whole, changed, rivals, first⟩
    · rw [answer] at changed
      cases changed
    · rw [answer] at changed
      cases changed
  · rintro ⟨before, e, after, rfl, rfl, rivals, first⟩
    rw [classify, List.find?_append, List.find?_eq_none.mpr (by simpa [Entry.Rivals] using first),
      Option.none_or, List.find?_cons_of_pos (by simpa [Entry.Rivals] using rivals)]

/-- What is said depends on the keys alone, but for the number of a line. -/
theorem classify_sameKeys
    (same : ∀ k, k ∈ listed'.map Entry.key ↔ k ∈ listed.map Entry.key) :
    (classify key listed' = .matching ↔ classify key listed = .matching) ∧
      (classify key listed' = .unknown ↔ classify key listed = .unknown) := by
  have transfer (holds : PublicKey → Prop) :
      (∀ e ∈ listed', holds e.key) ↔ ∀ e ∈ listed, holds e.key := by
    rw [← List.forall_mem_map (f := Entry.key) (P := holds),
      ← List.forall_mem_map (f := Entry.key) (P := holds)]
    simp only [same]
  rw [classify_eq_matching, classify_eq_matching, classify_eq_unknown, classify_eq_unknown]
  exact ⟨and_congr (same key) (transfer fun k => ¬(k.algorithm = key.algorithm ∧ k ≠ key)),
    transfer fun k => k.algorithm ≠ key.algorithm⟩

/-! ## What the answers are meant to say -/

/-- A match is to say that the key is listed, an unknown key that nothing is, and a changed key
that others are. -/
def Means (key : PublicKey) (listed : List Entry) : KeyStatus → Prop
  | .matching => key ∈ listed.map Entry.key
  | .unknown => listed = []
  | .changed _ => listed ≠ [] ∧ key ∉ listed.map Entry.key

/-- An answer says what it is meant to unless the key is listed beside a rival of it, or keys of
other algorithms only are listed. -/
theorem means_classify_iff : Means key listed (classify key listed) ↔
    (key ∈ listed.map Entry.key → ∀ e ∈ listed, ¬e.Rivals key) ∧
      (listed ≠ [] → ∃ e ∈ listed, e.key.algorithm = key.algorithm) := by
  rcases classify_cases key listed with
    ⟨before, e, after, rfl, rivals, -, answer⟩ | ⟨none, ⟨here, answer⟩ | ⟨absent, answer⟩⟩
  · have member : e ∈ before ++ e :: after := by simp
    rw [answer]
    constructor
    · rintro ⟨-, absent⟩
      exact ⟨fun here => absurd here absent, fun _ => ⟨e, member, rivals.1⟩⟩
    · rintro ⟨unrivalled, -⟩
      exact ⟨by simp, fun here => unrivalled here e member rivals⟩
  · obtain ⟨e, member, same⟩ := List.mem_map.mp here
    rw [answer]
    exact iff_of_true here ⟨fun _ => none, fun _ => ⟨e, member, by rw [same]⟩⟩
  · rw [answer]
    constructor
    · intro nothing
      exact ⟨fun _ => none, fun something => absurd nothing something⟩
    · rintro ⟨-, kin⟩
      refine Classical.byContradiction fun something => ?_
      obtain ⟨e, member, same⟩ := kin something
      refine none e member ⟨same, fun equal => ?_⟩
      exact absent (List.mem_map.mpr ⟨e, member, equal⟩)

end Classify

/-! ## The list at a path -/

section Verify

variable {files : Host.FileTree} {path : String} {place : Host.Location} {content : Bytes}
  {executable : Bool} (stands : files.resolve path = .ok (place, .file content executable))

include stands

theorem verify_file (host : String) (port : Nat) (key : PublicKey) :
    verify files host port key path = (entries host port content).map (classify key) := by
  rw [verify, stands]
  rfl

/-- **What is said of a presented key.**  Where the list can be read, the key matches if it is
among those listed for the host and no rival of it is; it is unknown if none of its algorithm is
listed; and it has changed, with the number of the line of the first rival, if there is one.

This is what the three answers are meant to say exactly if the key is not listed beside a rival
of it and the host is not listed with keys of other algorithms only.  In whatever order the lines
stand, the answer is the same but for the number. -/
theorem verify_status {host : String} {port : Nat} {listed : List Entry}
    (reads : entries host port content = .ok listed) (key : PublicKey) :
    ∃ status, verify files host port key path = .ok status ∧
      (status = .matching ↔ key ∈ listed.map Entry.key ∧ ∀ e ∈ listed, ¬e.Rivals key) ∧
      (status = .unknown ↔ ∀ e ∈ listed, e.key.algorithm ≠ key.algorithm) ∧
      (∀ line, status = .changed line ↔ ∃ before e after, listed = before ++ e :: after ∧
        e.line = line ∧ e.Rivals key ∧ ∀ d ∈ before, ¬d.Rivals key) ∧
      (Means key listed status ↔
        (key ∈ listed.map Entry.key → ∀ e ∈ listed, ¬e.Rivals key) ∧
          (listed ≠ [] → ∃ e ∈ listed, e.key.algorithm = key.algorithm)) ∧
      ∀ (files' : Host.FileTree) (path' : String) (place' : Host.Location) (content' : Bytes)
        (executable' : Bool), files'.resolve path' = .ok (place', .file content' executable') →
        (Text.split 10 content').Perm (Text.split 10 content) →
        ∃ status', verify files' host port key path' = .ok status' ∧
          (status' = .matching ↔ status = .matching) ∧
          (status' = .unknown ↔ status = .unknown) := by
  refine ⟨classify key listed, by rw [verify_file stands, reads]; rfl, classify_eq_matching,
    classify_eq_unknown, fun line => classify_eq_changed, means_classify_iff, ?_⟩
  intro files' path' place' content' executable' stands' reordered
  obtain ⟨listed', reads', same⟩ := entries_sameLines (fun part => reordered.mem_iff) reads
  exact ⟨classify key listed', by rw [verify_file stands', reads']; rfl, classify_sameKeys same⟩

end Verify

/-! ## A list that has kept a key -/

/-- A key of the museum's host, and the text that lists it. -/
def firstKey : PublicKey := .ed25519
  [218, 16, 221, 190, 125, 168, 155, 165, 72, 39, 220, 254, 34, 131, 2, 234, 84, 129, 129, 116,
   19, 3, 157, 181, 52, 189, 90, 81, 243, 183, 208, 205]

def firstKeyText : String :=
  "ssh-ed25519 AAAAC3NzaC1lZDI1NTE5AAAAINoQ3b59qJulSCfc/iKDAupUgYF0EwOdtTS9WlHzt9DN"

/-- The key that came after it. -/
def secondKey : PublicKey := .ed25519
  [233, 205, 90, 165, 118, 93, 120, 253, 195, 132, 232, 197, 68, 150, 84, 74, 162, 147, 43, 134,
   120, 217, 93, 59, 45, 6, 242, 222, 29, 43, 140, 177]

def secondKeyText : String :=
  "ssh-ed25519 AAAAC3NzaC1lZDI1NTE5AAAAIOnNWqV2XXj9w4ToxUSWVEqikyuGeNldOy0G8t4dK4yx"

/-- A key of another algorithm. -/
def curveKey : PublicKey := .ecdsa .p256 (4 :: List.replicate 64 1)

/-- The octets of some lines. -/
def octetsOf (lines : List String) : Bytes :=
  lines.flatMap fun line => Text.Utf8.encode line ++ [10]

/-- Files with a list of known hosts. -/
def filesListing (lines : List String) : Host.FileTree where
  entries := [(["root", "known_hosts"], .file (octetsOf lines) false)]
  workDirectory := []

theorem filesListing_resolve (lines : List String) :
    (filesListing lines).resolve "/root/known_hosts" =
      .ok (["root", "known_hosts"], .file (octetsOf lines) false) := by
  rfl

/-- A list that has kept the museum's first key beside the second one. -/
def museumLines : List String :=
  ["# old and new", "museum.example.org " ++ firstKeyText,
    "museum,museum.example.org " ++ secondKeyText]

/-- The keys that are listed for the museum; the remark is not counted. -/
def museumEntries : List Entry := [⟨1, firstKey⟩, ⟨2, secondKey⟩]

theorem museumLines_read :
    entries "museum.example.org" 22 (octetsOf museumLines) = .ok museumEntries := by
  decide +kernel

/-- A key of another algorithm than the listed ones is unknown, in whatever order these stand,
which is not what that is meant to say. -/
theorem other_algorithm_unknown :
    entries "museum.example.org" 22 (octetsOf museumLines) = .ok museumEntries ∧
      (∀ lines ∈ [museumLines, museumLines.reverse],
        verify (filesListing lines) "museum.example.org" 22 curveKey "/root/known_hosts" =
          .ok .unknown) ∧
      ¬Means curveKey museumEntries .unknown := by
  have reordered : (Text.split 10 (octetsOf museumLines.reverse)).Perm
      (Text.split 10 (octetsOf museumLines)) := by decide +kernel
  obtain ⟨status, answer, -, unknown, -, means, same⟩ :=
    verify_status (filesListing_resolve museumLines) museumLines_read curveKey
  obtain rfl : status = .unknown := unknown.mpr (by decide)
  obtain ⟨status', answer', -, unknown'⟩ :=
    same _ _ _ _ _ (filesListing_resolve museumLines.reverse) reordered
  obtain rfl : status' = .unknown := unknown'.mpr rfl
  refine ⟨museumLines_read, ?_, fun meant => ?_⟩
  · rw [List.forall_mem_cons, List.forall_mem_singleton]
    exact ⟨answer, answer'⟩
  · obtain ⟨e, member, kin⟩ := (means.mp meant).2 (by simp [museumEntries])
    revert e
    decide

/-- A listed key is not always said to match. -/
theorem listed_key_changed :
    ¬∀ (files : Host.FileTree) (path : String) (place : Host.Location) (content : Bytes)
        (executable : Bool) (host : String) (port : Nat) (listed : List Entry) (key : PublicKey)
        (status : KeyStatus), files.resolve path = .ok (place, .file content executable) →
      entries host port content = .ok listed → verify files host port key path = .ok status →
      Means key listed status := by
  intro meant
  have changed : verify (filesListing museumLines) "museum.example.org" 22 firstKey
      "/root/known_hosts" = .ok (.changed 2) := by
    rw [verify_file (filesListing_resolve museumLines), museumLines_read]
    decide
  obtain ⟨-, absent⟩ :=
    meant _ _ _ _ _ _ _ _ _ _ (filesListing_resolve museumLines) museumLines_read changed
  exact absent (by simp [museumEntries])

end KnownHosts

end Ssh

end ComposeSite
