/-
# ComposeSite.Proofs.Output.Stream -- what reads bring, and what sinks keep

A stream is known by two things: the octets that its reads bring before it ends
(`arrived`) and the failing read that ends it, if one does (`fault?`).  How the
octets are cut into reads is in neither.

A sink that was given some octets is `Sink.after` them: it keeps the part that its
limit allows.  Writing more is `Sink.after` all of them (`write_after`), however
they are cut into writes; and any sink takes octets in pieces as it takes them at
once, up to the piece that does not fit (`write_append`).
-/
import ComposeSite.Output.Sink

set_option autoImplicit false

namespace ComposeSite.Output

/-! ## Reads -/

/-- The octets that reads bring before the stream ends. -/
def arrived : List Read → Bytes
  | [] => []
  | .chunk [] :: _ => []
  | .failure _ :: _ => []
  | .chunk (b :: bs) :: rest => b :: bs ++ arrived rest

/-- What the failing read says that ends the stream, if one does. -/
def fault? : List Read → Option String
  | [] => none
  | .chunk [] :: _ => none
  | .failure text :: _ => some text
  | .chunk (_ :: _) :: rest => fault? rest

theorem arrived_chunk {data : Bytes} (nonempty : data ≠ []) (rest : List Read) :
    arrived (.chunk data :: rest) = data ++ arrived rest := by
  cases data with
  | nil => exact absurd rfl nonempty
  | cons b bs => rfl

/-- Reads that all bring something bring the octets they were cut from. -/
theorem arrived_chunks_append {chunks : List Bytes} (nonempty : ∀ c ∈ chunks, c ≠ [])
    (rest : List Read) : arrived (chunks.map .chunk ++ rest) = chunks.flatten ++ arrived rest := by
  induction chunks with
  | nil => rfl
  | cons c chunks ih =>
      rw [List.map_cons, List.cons_append, arrived_chunk (nonempty c (by simp)),
        ih fun d member => nonempty d (by simp [member]), List.flatten_cons, List.append_assoc]

theorem arrived_chunks {chunks : List Bytes} (nonempty : ∀ c ∈ chunks, c ≠ []) :
    arrived (chunks.map .chunk) = chunks.flatten := by
  simpa [arrived] using arrived_chunks_append nonempty []

theorem fault?_chunks_append {chunks : List Bytes} (nonempty : ∀ c ∈ chunks, c ≠ [])
    (rest : List Read) : fault? (chunks.map .chunk ++ rest) = fault? rest := by
  induction chunks with
  | nil => rfl
  | cons c chunks ih =>
      cases c with
      | nil => exact absurd rfl (nonempty [] (by simp))
      | cons b bs => exact ih fun d member => nonempty d (by simp [member])

theorem fault?_chunks (chunks : List Bytes) : fault? (chunks.map .chunk) = none := by
  induction chunks with
  | nil => rfl
  | cons c chunks ih =>
      cases c with
      | nil => rfl
      | cons b bs => simpa [fault?] using ih

/-! ## Limits -/

section Limits

variable {α : Type} {limit : Option Nat} {a : List α}

/-- The part of a list that a limit allows. -/
def allowed (limit : Option Nat) (data : List α) : List α :=
  match limit with
  | none => data
  | some n => data.take n

/-- Whether a limit is exceeded by a list. -/
def exceeds (limit : Option Nat) (data : List α) : Bool :=
  match limit with
  | none => false
  | some n => n < data.length

theorem exceeds_append_left {b : List α} (fits : exceeds limit (a ++ b) = false) :
    exceeds limit a = false := by
  cases limit with
  | none => rfl
  | some n =>
      simp only [exceeds, List.length_append, decide_eq_false_iff_not] at fits ⊢
      omega

theorem exceeds_append_of_exceeds (beyond : exceeds limit a = true) (b : List α) :
    exceeds limit (a ++ b) = true := by
  cases fits : exceeds limit (a ++ b) with
  | true => rfl
  | false => exact absurd beyond (by simp [exceeds_append_left fits])

/-- A limit that is first exceeded by one more element has been reached before. -/
theorem eq_of_exceeds_concat {x : α} (fits : exceeds limit a = false)
    (beyond : exceeds limit (a ++ [x]) = true) : limit = some a.length := by
  cases limit with
  | none => cases beyond
  | some n =>
      simp only [exceeds, decide_eq_false_iff_not, decide_eq_true_eq, List.length_append,
        List.length_singleton] at fits beyond
      rw [Option.some.injEq]
      omega

/-- A limit that is not exceeded allows everything. -/
theorem allowed_of_not_exceeds (fits : exceeds limit a = false) : allowed limit a = a := by
  cases limit with
  | none => rfl
  | some n =>
      simp only [exceeds, decide_eq_false_iff_not, Nat.not_lt] at fits
      exact List.take_of_length_le fits

/-- A limit that is exceeded allows no more of what follows. -/
theorem allowed_append_of_exceeds (beyond : exceeds limit a = true) (b : List α) :
    allowed limit (a ++ b) = allowed limit a := by
  cases limit with
  | none => cases beyond
  | some n =>
      have long : n < a.length := by simpa [exceeds] using beyond
      exact List.take_append_of_le_length (by omega)

/-- What is left of a limit decides about what follows. -/
theorem exceeds_append (fits : exceeds limit a = false) (b : List α) :
    exceeds limit (a ++ b) = exceeds (limit.map (· - a.length)) b := by
  cases limit with
  | none => rfl
  | some n =>
      simp only [exceeds, decide_eq_false_iff_not] at fits
      simp only [exceeds, Option.map_some, List.length_append, decide_eq_decide]
      omega

@[inherit_doc exceeds_append]
theorem allowed_append (fits : exceeds limit a = false) (b : List α) :
    allowed limit (a ++ b) = a ++ allowed (limit.map (· - a.length)) b := by
  cases limit with
  | none => rfl
  | some n =>
      simp only [exceeds, decide_eq_false_iff_not, Nat.not_lt] at fits
      simp only [allowed, Option.map_some]
      rw [List.take_append, List.take_of_length_le fits]

theorem allowed_map {β : Type} (f : α → β) : allowed limit (a.map f) = (allowed limit a).map f := by
  cases limit with
  | none => rfl
  | some n => exact List.map_take.symm

theorem exceeds_map {β : Type} (f : α → β) : exceeds limit (a.map f) = exceeds limit a := by
  cases limit with
  | none => rfl
  | some n => simp only [exceeds, List.length_map]

end Limits

/-! ## Sinks -/

namespace Sink

/-- A sink that was given some octets from the start. -/
def after (limit : Option Nat) (data : Bytes) : Sink := ⟨limit, allowed limit data⟩

@[simp]
theorem after_none (data : Bytes) : after none data = ⟨none, data⟩ := rfl

@[simp]
theorem after_accepted (limit : Option Nat) (data : Bytes) :
    (after limit data).accepted = allowed limit data := rfl

theorem after_nil (limit : Option Nat) : after limit [] = { limit := limit } := by
  cases limit <;> simp [after, allowed]

/-- Writing to a sink that has not failed: it keeps what its limit allows of everything it was
given, and fails when that is not all of it. -/
theorem write_after {limit : Option Nat} {before : Bytes} (fits : exceeds limit before = false)
    (data : Bytes) :
    (after limit before).write data =
      (after limit (before ++ data), !exceeds limit (before ++ data)) := by
  cases limit with
  | none => rfl
  | some n =>
      have short : before.length ≤ n := by simpa [exceeds] using fits
      have kept : (before ++ data).take n = before ++ data.take (n - before.length) := by
        rw [List.take_append, List.take_of_length_le short]
      cases data with
      | nil => simp [write, Sink.fits, fitting, after, allowed, exceeds, short]
      | cons b bs =>
          simp only [write, after, allowed, fitting, Sink.fits, exceeds, kept,
            List.take_of_length_le short, List.isEmpty_cons, Bool.false_or,
            List.length_append, Prod.mk.injEq, true_and]
          rw [← decide_not, decide_eq_decide]
          omega

/-! ## Writing in pieces -/

@[simp]
theorem write_nil (s : Sink) : s.write [] = (s, true) := by
  rcases s with ⟨_ | n, accepted⟩ <;> simp [write, fitting, fits]

@[simp]
theorem fits_nil (s : Sink) : s.fits [] = true := congrArg Prod.snd s.write_nil

theorem fits_limited {n : Nat} {accepted data : Bytes} (nonempty : data ≠ []) :
    fits ⟨some n, accepted⟩ data = decide (accepted.length + data.length ≤ n) := by
  simp [fits, nonempty]

/-- Behind octets that fit, more of them are written as if they came alone; behind octets that
do not, nothing is. -/
theorem write_append (s : Sink) (first second : Bytes) :
    s.write (first ++ second) =
      if s.fits first then (s.write first).1.write second else ((s.write first).1, false) := by
  rcases s with ⟨_ | n, accepted⟩
  · simp [write, fitting, fits]
  by_cases nothing : first = []
  · subst nothing
    rw [write_nil, List.nil_append]
    rfl
  rw [fits_limited nothing]
  by_cases enough : accepted.length + first.length ≤ n
  · have fit : first.take (n - accepted.length) = first := List.take_of_length_le (by omega)
    by_cases last : second = []
    · subst last
      simp [write, fitting, fits_limited nothing, enough]
    · have room : n - accepted.length - first.length = n - (accepted ++ first).length := by
        rw [List.length_append]
        omega
      simp only [enough, decide_true, if_true, write, fitting, List.take_append, fit, room,
        fits_limited (List.append_ne_nil_of_left_ne_nil nothing second), fits_limited last,
        List.append_assoc, List.length_append, Nat.add_assoc]
  · have full : (first ++ second).take (n - accepted.length) = first.take (n - accepted.length) :=
      List.take_append_of_le_length (by omega)
    have beyond : ¬ accepted.length + (first ++ second).length ≤ n := by
      rw [List.length_append]
      omega
    simp only [enough, decide_false, Bool.false_eq_true, if_false, write, fitting, full,
      fits_limited (List.append_ne_nil_of_left_ne_nil nothing second), beyond]

theorem fits_append (s : Sink) (first second : Bytes) :
    s.fits (first ++ second) = (s.fits first && (s.write first).1.fits second) := by
  have written := congrArg Prod.snd (s.write_append first second)
  cases fit : s.fits first with
  | false => rwa [fit] at written
  | true => rwa [fit] at written

end Sink

end ComposeSite.Output
