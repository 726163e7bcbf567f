/-
# ComposeSite.Proofs.Json.Reading -- what readers make of plain values

A reader `Reads` a value as something if it makes that of every tree that spells the value,
wherever its parts stand in a text.  Lists and tables are read part by part; an object is
read member by member, and `Steps` follows the state from one member to the next.

A written value is read as what its trees are read as (`run_chars`).
-/
import ComposeSite.Json.Decode
import ComposeSite.Proofs.Json.RoundTrip

set_option autoImplicit false

namespace ComposeSite.Json

/-! ## Trees that spell a value -/

/-- A tree without defects, and the value that it spells. -/
inductive Plain : Node → Value → Prop where
  | null (start stop : Position) : Plain (.null start stop) .null
  | bool (b : Bool) (start stop : Position) : Plain (.bool b start stop) (.bool b)
  | number (n : Number) (start stop : Position) : Plain (.number n start stop) (.number n)
  | text (s : String) (start stop : Position) : Plain (.text (.ok s) start stop) (.text s)
  | array {nodes : List Node} {items : List Value} (start stop : Position)
      (spelled : itemValues nodes = some items) :
      Plain (.array start nodes (.closed stop)) (.array items)
  | object {nodes : List (Except Fault String × Position × Node)}
      {members : List (String × Value)} (start stop : Position)
      (spelled : memberValues nodes = some members) :
      Plain (.object start nodes (.closed stop)) (.object members)

theorem Node.plain {n : Node} {v : Value} (spelled : n.toValue? = some v) : Plain n v := by
  cases n with
  | null start stop => cases spelled; exact .null start stop
  | bool b start stop => cases spelled; exact .bool b start stop
  | number n start stop => cases spelled; exact .number n start stop
  | broken start b => cases spelled
  | text s start stop =>
      cases s with
      | ok s => cases spelled; exact .text s start stop
      | error f => cases spelled
  | array start nodes tail =>
      cases tail with
      | closed stop =>
          obtain ⟨items, read, rfl⟩ := Option.map_eq_some_iff.mp spelled
          exact .array start stop read
      | broken b => cases spelled
  | object start nodes tail =>
      cases tail with
      | closed stop =>
          obtain ⟨members, read, rfl⟩ := Option.map_eq_some_iff.mp spelled
          exact .object start stop read
      | broken b => cases spelled

/-- The nodes of a list that spells at least one item. -/
theorem itemValues_eq_cons {nodes : List Node} {v : Value} {items : List Value}
    (spelled : itemValues nodes = some (v :: items)) :
    ∃ n more, nodes = n :: more ∧ n.toValue? = some v ∧ itemValues more = some items := by
  cases nodes with
  | nil => cases spelled
  | cons n more =>
      obtain ⟨v', first, spelled⟩ := Option.bind_eq_some_iff.mp spelled
      obtain ⟨items', rest, spelled⟩ := Option.bind_eq_some_iff.mp spelled
      cases spelled
      exact ⟨n, more, rfl, first, rest⟩

/-- The nodes of an object that spells at least one member. -/
theorem memberValues_eq_cons {nodes : List (Except Fault String × Position × Node)}
    {key : String} {v : Value} {members : List (String × Value)}
    (spelled : memberValues nodes = some ((key, v) :: members)) :
    ∃ place n more, nodes = (.ok key, place, n) :: more ∧ n.toValue? = some v ∧
      memberValues more = some members := by
  cases nodes with
  | nil => cases spelled
  | cons node more =>
      obtain ⟨key', place, n⟩ := node
      cases key' with
      | error f => cases spelled
      | ok key' =>
          obtain ⟨v', first, spelled⟩ := Option.bind_eq_some_iff.mp spelled
          obtain ⟨members', rest, spelled⟩ := Option.bind_eq_some_iff.mp spelled
          cases spelled
          exact ⟨place, n, more, rfl, first, rest⟩

theorem itemValues_eq_nil {nodes : List Node} (spelled : itemValues nodes = some []) :
    nodes = [] := by
  cases nodes with
  | nil => rfl
  | cons n more =>
      obtain ⟨v, first, spelled⟩ := Option.bind_eq_some_iff.mp spelled
      obtain ⟨items, rest, spelled⟩ := Option.bind_eq_some_iff.mp spelled
      cases spelled

theorem memberValues_eq_nil {nodes : List (Except Fault String × Position × Node)}
    (spelled : memberValues nodes = some []) : nodes = [] := by
  cases nodes with
  | nil => rfl
  | cons node more =>
      obtain ⟨key, place, n⟩ := node
      cases key with
      | error f => cases spelled
      | ok key =>
          obtain ⟨v, first, spelled⟩ := Option.bind_eq_some_iff.mp spelled
          obtain ⟨members, rest, spelled⟩ := Option.bind_eq_some_iff.mp spelled
          cases spelled

mutual

/-- There is no defect to skip over in a tree that spells a value. -/
theorem skip_eq_none : (v : Value) → ∀ {n : Node}, n.toValue? = some v → n.skip = none
  | .null, n, spelled => by cases n.plain spelled; rfl
  | .bool b, n, spelled => by cases Node.plain spelled; rfl
  | .number i, n, spelled => by cases Node.plain spelled; rfl
  | .text s, n, spelled => by cases Node.plain spelled; rfl
  | .array items, n, spelled => by
      cases Node.plain spelled with
      | array start stop spelled =>
          rw [Node.skip, skipItems_eq_none items spelled]
          rfl
  | .object members, n, spelled => by
      cases Node.plain spelled with
      | object start stop spelled =>
          rw [Node.skip, skipMembers_eq_none members spelled]
          rfl

theorem skipItems_eq_none : (items : List Value) → ∀ {nodes : List Node},
    itemValues nodes = some items → skipItems nodes = none
  | [], nodes, spelled => by
      rw [itemValues_eq_nil spelled]
      rfl
  | v :: items, nodes, spelled => by
      obtain ⟨n, more, rfl, first, rest⟩ := itemValues_eq_cons spelled
      rw [skipItems, skip_eq_none v first, skipItems_eq_none items rest]
      rfl

theorem skipMembers_eq_none : (members : List (String × Value)) →
    ∀ {nodes : List (Except Fault String × Position × Node)},
    memberValues nodes = some members → skipMembers nodes = none
  | [], nodes, spelled => by
      rw [memberValues_eq_nil spelled]
      rfl
  | (key, v) :: members, nodes, spelled => by
      obtain ⟨place, n, more, rfl, first, rest⟩ := memberValues_eq_cons spelled
      rw [skipMembers, skip_eq_none v first, skipMembers_eq_none members rest]
      rfl

end

mutual

/-- A plain value as a tree spells that value. -/
theorem toNode_toValue? : (v : Value) → v.toNode.toValue? = some v
  | .null | .bool _ | .number _ | .text _ => rfl
  | .array items => by
      rw [Value.toNode, Node.toValue?, itemNodes_itemValues items]
      rfl
  | .object members => by
      rw [Value.toNode, Node.toValue?, memberNodes_memberValues members]
      rfl

theorem itemNodes_itemValues : (items : List Value) → itemValues (itemNodes items) = some items
  | [] => rfl
  | v :: items => by
      rw [itemNodes, itemValues, toNode_toValue? v, itemNodes_itemValues items]
      rfl

theorem memberNodes_memberValues : (members : List (String × Value)) →
    memberValues (memberNodes members) = some members
  | [] => rfl
  | (key, v) :: members => by
      rw [memberNodes, memberValues, toNode_toValue? v, memberNodes_memberValues members]
      rfl

end

theorem toWord?_ofNat {m : Nat} (small : m < 0x10000000000000000) :
    (Number.ofNat m).toWord? = some (Int.ofNat m) := by
  simp only [Number.toWord?, Number.ofNat, Number.toInt?, Bool.false_and, Bool.false_eq_true,
    if_true, if_false, Option.filter_some]
  rw [if_pos]
  simp only [Int.ofNat_eq_natCast, Bool.and_eq_true, decide_eq_true_eq]
  omega

namespace Reader

variable {α β σ : Type}

/-- The reader makes the same of every tree that spells a value. -/
def Reads (read : Reader α) (v : Value) (a : α) : Prop :=
  ∀ n : Node, n.toValue? = some v → read n = .ok a

theorem reads_text (s : String) : text.Reads (.text s) s := by
  intro n spelled
  cases n.plain spelled
  rfl

theorem reads_bool (b : Bool) : bool.Reads (.bool b) b := by
  intro n spelled
  cases n.plain spelled
  rfl

/-- A natural number that a word holds is read as itself. -/
theorem reads_nat {high : Int} {m : Nat} (small : m < 0x10000000000000000)
    (inBounds : Int.ofNat m ≤ high) (expected : String) :
    (integer 0 high expected).Reads (.nat m) (Int.ofNat m) := by
  intro n spelled
  cases n.plain spelled with
  | number number start stop =>
      have bounds : (0 : Int) ≤ Int.ofNat m ∧ Int.ofNat m ≤ high := ⟨Int.natCast_nonneg m, inBounds⟩
      rw [integer, toWord?_ofNat small]
      simp only [if_pos bounds]

theorem reads_null (read : Reader α) : (optional read).Reads .null none := by
  intro n spelled
  cases n.plain spelled
  rfl

theorem Reads.optional {read : Reader α} {v : Value} {a : α} (reads : read.Reads v a)
    (something : v ≠ .null) : (optional read).Reads v (some a) := by
  intro n spelled
  rw [Reader.optional, reads n spelled]
  · rfl
  · rintro start stop rfl
    cases spelled
    exact something rfl

theorem Reads.map {read : Reader α} {v : Value} {a : α} (reads : read.Reads v a) (f : α → β) :
    Reads (fun n => (read n).map f) v (f a) := by
  intro n spelled
  show (read n).map f = _
  rw [reads n spelled]
  rfl

theorem items_eq {read : Reader α} {value : β → Value} {result : β → α} {bs : List β}
    (each : ∀ b ∈ bs, read.Reads (value b) (result b)) {nodes : List Node} (stop : Position)
    (spelled : itemValues nodes = some (bs.map value)) :
    items read (.closed stop) nodes = .ok (bs.map result) := by
  induction bs generalizing nodes with
  | nil =>
      rw [itemValues_eq_nil spelled]
      rfl
  | cons b bs ih =>
      obtain ⟨n, more, rfl, first, rest⟩ := itemValues_eq_cons spelled
      rw [items, each b List.mem_cons_self n first,
        ih (fun b mem => each b (List.mem_cons_of_mem _ mem)) rest]
      rfl

/-- A list is read item by item. -/
theorem reads_list {read : Reader α} {value : β → Value} {result : β → α} {bs : List β}
    (each : ∀ b ∈ bs, read.Reads (value b) (result b)) :
    (list read).Reads (.array (bs.map value)) (bs.map result) := by
  intro n spelled
  cases n.plain spelled with
  | array start stop spelled => exact items_eq each stop spelled

/-- The members of an object are read one after the other, and unknown ones skipped. -/
inductive Steps (step : String → Option (σ → Reader σ)) : σ → List (String × Value) → σ → Prop where
  | done (s : σ) : Steps step s [] s
  | known {key : String} {v : Value} {read : σ → Reader σ} {s s' s'' : σ}
      {members : List (String × Value)} (known : step key = some read)
      (reads : (read s).Reads v s') (rest : Steps step s' members s'') :
      Steps step s ((key, v) :: members) s''
  | skipped {key : String} {v : Value} {s s' : σ} {members : List (String × Value)}
      (unknown : step key = none) (rest : Steps step s members s') :
      Steps step s ((key, v) :: members) s'

section Members

variable {step : String → Option (σ → Reader σ)} {tail : Tail} {s : σ} {key : String}
  {place : Position} {n : Node} {more : List (Except Fault String × Position × Node)}

theorem members_known {read : σ → Reader σ} (known : step key = some read) :
    members step tail s ((.ok key, place, n) :: more) =
      (read s n >>= fun s => members step tail s more) := by
  rw [members]
  simp only [bind, Except.bind, known]

theorem members_skipped (unknown : step key = none) (skipped : n.skip = none) :
    members step tail s ((.ok key, place, n) :: more) = members step tail s more := by
  rw [members]
  simp only [bind, Except.bind, unknown, skipped]

end Members

theorem Steps.members_eq {step : String → Option (σ → Reader σ)} {s s' : σ}
    {ms : List (String × Value)} {nodes : List (Except Fault String × Position × Node)}
    (steps : Steps step s ms s') (stop : Position) (spelled : memberValues nodes = some ms) :
    members step (.closed stop) s nodes = .ok s' := by
  induction steps generalizing nodes with
  | done s =>
      rw [memberValues_eq_nil spelled]
      rfl
  | known known reads rest ih =>
      obtain ⟨place, n, more, rfl, first, later⟩ := memberValues_eq_cons spelled
      rw [members_known known, reads n first]
      exact ih later
  | skipped unknown rest ih =>
      obtain ⟨place, n, more, rfl, first, later⟩ := memberValues_eq_cons spelled
      rw [members_skipped unknown (skip_eq_none _ first)]
      exact ih later

/-- An object is read member by member. -/
theorem reads_object {expected : String} {start s : σ} {step : String → Option (σ → Reader σ)}
    {ms : List (String × Value)} (steps : Steps step start ms s) :
    (object expected start step).Reads (.object ms) s := by
  intro n spelled
  cases n.plain spelled with
  | object start stop spelled => exact steps.members_eq stop spelled

/-- A table is read entry by entry. -/
theorem reads_table {read : Reader α} (value : β → Value) (result : β → α)
    (entries : List (String × β))
    (each : ∀ e ∈ entries, read.Reads (value e.2) (result e.2)) :
    (table read).Reads (.object (entries.map fun e => (e.1, value e.2)))
      (entries.map fun e => (e.1, result e.2)) := by
  -- the entries read so far stand before those still to be read
  have steps (soFar : List (String × α)) : Steps
      (fun key => some fun entries n => do
        let a ← read n
        pure (entries ++ [(key, a)]))
      soFar (entries.map fun e => (e.1, value e.2))
      (soFar ++ entries.map fun e => (e.1, result e.2)) := by
    induction entries generalizing soFar with
    | nil =>
        rw [List.map_nil, List.map_nil, List.append_nil]
        exact .done soFar
    | cons e entries ih =>
        have rest := ih (fun e mem => each e (List.mem_cons_of_mem _ mem))
          (soFar ++ [(e.1, result e.2)])
        rw [List.append_assoc, List.singleton_append] at rest
        refine .known rfl (fun n spelled => ?_) rest
        rw [each e List.mem_cons_self n spelled]
        rfl
  exact reads_object (steps [])

/-- A written value is read as what the trees that spell it are read as. -/
theorem run_chars {read : Reader α} {v : Value} {a : α} (whole : v.Whole)
    (reads : read.Reads v a) : run read v.chars = .ok a := by
  obtain ⟨n, whole, spelled⟩ := ofChars_chars whole
  rw [run, whole]
  simp only [reads n spelled]

end Reader

end ComposeSite.Json
