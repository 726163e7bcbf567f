/-
# ComposeSite.Proofs.Text.Utf8 -- text as octets and back

The octets that spell a character take the decoder from between characters through the
character and back between characters (`unitsFrom_char`), whatever follows.  So the octets
that spell a text are read as that text (`decodeLossy_encode`).
-/
import ComposeSite.Text.Utf8

set_option autoImplicit false

namespace ComposeSite.Text.Utf8

/-! ## Octets as numbers -/

section Octets

variable {n : Nat} (small : n < 256) (b : UInt8)

include small

theorem toNat_ofNat : (UInt8.ofNat n).toNat = n := by
  rw [UInt8.toNat_ofNat']
  exact Nat.mod_eq_of_lt small

theorem ofNat_lt : UInt8.ofNat n < b ↔ n < b.toNat := by
  rw [UInt8.lt_iff_toNat_lt, toNat_ofNat small]

theorem ofNat_le : UInt8.ofNat n ≤ b ↔ n ≤ b.toNat := by
  rw [UInt8.le_iff_toNat_le, toNat_ofNat small]

theorem le_ofNat : b ≤ UInt8.ofNat n ↔ b.toNat ≤ n := by
  rw [UInt8.le_iff_toNat_le, toNat_ofNat small]

theorem ofNat_eq : UInt8.ofNat n = b ↔ n = b.toNat := by
  rw [← UInt8.toNat_inj, toNat_ofNat small]

end Octets

namespace Follower

/-- The least octet that may come next. -/
def least : Follower → Nat
  | any | upTo9F | upTo8F => 0x80
  | fromA0 => 0xA0
  | from90 => 0x90

/-- The greatest octet that may come next. -/
def greatest : Follower → Nat
  | any | fromA0 | from90 => 0xBF
  | upTo9F => 0x9F
  | upTo8F => 0x8F

theorem greatest_le (f : Follower) : f.greatest ≤ 0xBF := by cases f <;> decide

theorem admits_ofNat (f : Follower) {n : Nat} (low : f.least ≤ n) (high : n ≤ f.greatest) :
    f.admits (UInt8.ofNat n) = true := by
  have bound := f.greatest_le
  have small : n < 256 := by omega
  cases f
  all_goals
    simp only [admits, Bool.and_eq_true, decide_eq_true_eq, le_ofNat small, ofNat_le small]
    exact ⟨low, high⟩

end Follower

/-! ## One character -/

namespace State

section Inside

variable (value : Nat) {next : Follower} {n : Nat} (low : next.least ≤ n) (high : n ≤ next.greatest)

include low high

/-- An octet that may come next completes its character if it is the last one. -/
theorem step_last : (inside value 0 next).step (UInt8.ofNat n) =
    ([some (Char.ofNat (64 * value + (n - 0x80)))], ground) := by
  have bound := next.greatest_le
  have small : n < 256 := by omega
  simp only [step, next.admits_ofNat low high, if_true, toNat_ofNat small]

/-- An octet that may come next leads on inside its character if more are missing. -/
theorem step_more (missing : Nat) : (inside value (missing + 1) next).step (UInt8.ofNat n) =
    ([], inside (64 * value + (n - 0x80)) missing .any) := by
  have bound := next.greatest_le
  have small : n < 256 := by omega
  simp only [step, next.admits_ofNat low high, if_true, toNat_ofNat small]

end Inside

/-- The first octet of a character, by its value. -/
theorem step_ground {n : Nat} (small : n < 256) : ground.step (UInt8.ofNat n) =
    if n < 0x80 then ([some (Char.ofNat n)], ground)
    else if n < 0xC2 then ([none], ground)
    else if n < 0xE0 then ([], inside (n - 0xC0) 0 .any)
    else if n < 0xF0 then
      ([], inside (n - 0xE0) 1
        (if n = 0xE0 then .fromA0 else if n = 0xED then .upTo9F else .any))
    else if n < 0xF5 then
      ([], inside (n - 0xF0) 2
        (if n = 0xF0 then .from90 else if n = 0xF4 then .upTo8F else .any))
    else ([none], ground) := by
  simp only [step, start, ofNat_lt small, ofNat_eq small, toNat_ofNat small]
  rfl

end State

theorem unitsFrom_step {s s' : State} {b : UInt8} {units : List (Option Char)}
    (stepped : s.step b = (units, s')) (bs : Bytes) :
    unitsFrom s (b :: bs) = units ++ unitsFrom s' bs := by
  rw [unitsFrom, stepped]

/-- The octet that carries the lowest six bits of a value completes a character. -/
theorem unitsFrom_last (value v : Nat) (rest : Bytes) :
    unitsFrom (.inside value 0 .any) (UInt8.ofNat (v % 64 + 128) :: rest) =
      some (Char.ofNat (64 * value + v % 64)) :: unitsFrom .ground rest := by
  have last := State.step_last value (show Follower.any.least ≤ v % 64 + 128 from Nat.le_add_left ..)
    (show v % 64 + 128 ≤ 0xBF by omega)
  rw [Nat.add_sub_cancel] at last
  exact unitsFrom_step last rest

/-- The octets of a character are read as that character. -/
theorem unitsFrom_char (c : Char) (rest : Bytes) :
    unitsFrom .ground (String.utf8EncodeChar c ++ rest) = some c :: unitsFrom .ground rest := by
  have spelled : Char.ofNat c.val.toNat = c := Char.ofNat_toNat c
  have valid : c.val.toNat < 0xD800 ∨ 0xDFFF < c.val.toNat ∧ c.val.toNat < 0x110000 := c.valid
  simp only [String.utf8EncodeChar]
  generalize c.val.toNat = v at spelled valid
  split
  · have first := State.step_ground (show v < 256 by omega)
    rw [if_pos (by omega), spelled] at first
    exact unitsFrom_step first rest
  split
  · have first := State.step_ground (show v / 64 % 32 + 192 < 256 by omega)
    rw [if_neg (by omega), if_neg (by omega), if_pos (by omega)] at first
    rw [List.cons_append, List.singleton_append, unitsFrom_step first, unitsFrom_last,
      show 64 * (v / 64 % 32 + 192 - 192) + v % 64 = v by omega, spelled, List.nil_append]
  split
  · have first := State.step_ground (show v / 4096 % 16 + 224 < 256 by omega)
    rw [if_neg (by omega), if_neg (by omega), if_neg (by omega), if_pos (by omega)] at first
    generalize confined : (if v / 4096 % 16 + 224 = 0xE0 then Follower.fromA0
      else if v / 4096 % 16 + 224 = 0xED then .upTo9F else .any) = next at first
    have within : next.least ≤ v / 64 % 64 + 128 ∧ v / 64 % 64 + 128 ≤ next.greatest := by
      subst confined
      split
      · exact ⟨show 0xA0 ≤ _ by omega, show _ ≤ 0xBF by omega⟩
      split
      · exact ⟨show 0x80 ≤ _ by omega, show _ ≤ 0x9F by omega⟩
      · exact ⟨show 0x80 ≤ _ by omega, show _ ≤ 0xBF by omega⟩
    have second := State.step_more (v / 4096 % 16 + 224 - 224) within.1 within.2 0
    rw [List.cons_append, List.cons_append, List.singleton_append, unitsFrom_step first,
      unitsFrom_step second, unitsFrom_last,
      show 64 * (64 * (v / 4096 % 16 + 224 - 224) + (v / 64 % 64 + 128 - 0x80)) + v % 64 = v by
        omega, spelled, List.nil_append, List.nil_append]
  · have first := State.step_ground (show v / 262144 % 8 + 240 < 256 by omega)
    rw [if_neg (by omega), if_neg (by omega), if_neg (by omega), if_neg (by omega),
      if_pos (by omega)] at first
    generalize confined : (if v / 262144 % 8 + 240 = 0xF0 then Follower.from90
      else if v / 262144 % 8 + 240 = 0xF4 then .upTo8F else .any) = next at first
    have within : next.least ≤ v / 4096 % 64 + 128 ∧ v / 4096 % 64 + 128 ≤ next.greatest := by
      subst confined
      split
      · exact ⟨show 0x90 ≤ _ by omega, show _ ≤ 0xBF by omega⟩
      split
      · exact ⟨show 0x80 ≤ _ by omega, show _ ≤ 0x8F by omega⟩
      · exact ⟨show 0x80 ≤ _ by omega, show _ ≤ 0xBF by omega⟩
    have second := State.step_more (v / 262144 % 8 + 240 - 240) within.1 within.2 1
    have third := State.step_more
      (64 * (v / 262144 % 8 + 240 - 240) + (v / 4096 % 64 + 128 - 0x80))
      (show Follower.any.least ≤ v / 64 % 64 + 128 from Nat.le_add_left ..)
      (show v / 64 % 64 + 128 ≤ 0xBF by omega) 0
    rw [List.cons_append, List.cons_append, List.cons_append, List.singleton_append,
      unitsFrom_step first, unitsFrom_step second, unitsFrom_step third, unitsFrom_last,
      show 64 * (64 * (64 * (v / 262144 % 8 + 240 - 240) + (v / 4096 % 64 + 128 - 0x80)) +
      (v / 64 % 64 + 128 - 0x80)) + v % 64 = v by omega, spelled, List.nil_append,
      List.nil_append, List.nil_append]

/-! ## Texts -/

theorem units_encodeChars (cs : List Char) : units (encodeChars cs) = cs.map some := by
  induction cs with
  | nil => rfl
  | cons c cs ih =>
      rw [units, encodeChars, List.flatMap_cons, unitsFrom_char, List.map_cons]
      exact congrArg (some c :: ·) ih

/-- The octets that spell a text are read as that text. -/
theorem decodeLossy_encode (s : String) : decodeLossy (encode s) = s := by
  rw [decodeLossy, decodeLossyChars, encode, units_encodeChars, List.map_map]
  exact (congrArg String.ofList (List.map_id _)).trans String.ofList_toList

end ComposeSite.Text.Utf8
