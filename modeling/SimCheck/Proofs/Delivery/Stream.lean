import SimCheck.Wire.Stream
import Mathlib.Tactic.Common

/-!
# Streams that arrive in pieces

However a stream is cut into pieces, the bytes left over from one piece, decoded together with the
next, give the messages that follow.

* `messages` are the messages of a stream up to the first error;
* `decodeUntilError_append`: a stream that arrives in two pieces is decoded as if it came in one;
* `messages_prefix`: what has been decoded stays decoded.
-/

namespace SimCheck.Wire

variable {α : Type} [Message α]

/-- The messages of a stream up to the first error. -/
def messages (stream : Bytes) : List α := (decodeUntilError stream).1

theorem decodeNext?_append {a rest : Bytes} {m : Except Error α}
    (h : decodeNext? a = some (m, rest)) (b : Bytes) :
    decodeNext? (a ++ b) = some (m, rest ++ b) := by
  unfold decodeNext? at h ⊢
  split_ifs at h with hshort
  cases h
  have hlength : blockSize ≤ a.length := Nat.le_of_not_lt hshort
  have hlong : ¬(a ++ b).length < blockSize := by
    rw [List.length_append]
    omega
  rw [if_neg hlong, List.take_append_of_le_length hlength, List.drop_append_of_le_length hlength]

theorem decodeUntilError_of_none {a : Bytes} (h : decodeNext? (α := α) a = none) :
    decodeUntilError (α := α) a = ([], a, none) := by
  rw [decodeUntilError]
  split <;> simp_all

theorem decodeUntilError_of_error {a rest : Bytes} {e : Error}
    (h : decodeNext? (α := α) a = some (.error e, rest)) :
    decodeUntilError (α := α) a = ([], rest, some e) := by
  rw [decodeUntilError]
  split <;> simp_all

theorem decodeUntilError_of_ok {a rest : Bytes} {m : α} (h : decodeNext? a = some (.ok m, rest)) :
    decodeUntilError a =
      (m :: (decodeUntilError (α := α) rest).1, (decodeUntilError (α := α) rest).2) := by
  rw [decodeUntilError]
  split <;> simp_all

/-- Decoding goes on with more bytes, unless it has met an error. -/
def resume (b : Bytes) : List α × Bytes × Option Error → List α × Bytes × Option Error
  | (ms, rest, none) =>
    (ms ++ (decodeUntilError (α := α) (rest ++ b)).1, (decodeUntilError (α := α) (rest ++ b)).2)
  | (ms, rest, some e) => (ms, rest ++ b, some e)

/-- What has been decoded before does not matter. -/
theorem resume_append (b : Bytes) (ms : List α) (r : List α × Bytes × Option Error) :
    resume b (ms ++ r.1, r.2) = (ms ++ (resume b r).1, (resume b r).2) := by
  obtain ⟨_, rest, e⟩ := r
  cases e with
  | none => rw [resume, resume, List.append_assoc]
  | some e => rfl

theorem resume_cons (b : Bytes) (m : α) (r : List α × Bytes × Option Error) :
    resume b (m :: r.1, r.2) = (m :: (resume b r).1, (resume b r).2) := resume_append b [m] r

/-- **A stream that arrives in two pieces is decoded as if it came in one.** -/
theorem decodeUntilError_append (a b : Bytes) :
    decodeUntilError (α := α) (a ++ b) = resume b (decodeUntilError a) := by
  -- The recursion is on the first piece: every block that is complete in it is split off.
  induction hn : a.length using Nat.strongRecOn generalizing a with
  | ind n ih =>
    subst hn
    cases hnext : decodeNext? (α := α) a with
    | none =>
      rw [decodeUntilError_of_none hnext]
      rfl
    | some r =>
      obtain ⟨m, rest⟩ := r
      cases m with
      | error e =>
        rw [decodeUntilError_of_error hnext, decodeUntilError_of_error (decodeNext?_append hnext b)]
        rfl
      | ok m =>
        rw [decodeUntilError_of_ok hnext, decodeUntilError_of_ok (decodeNext?_append hnext b),
          resume_cons, ih _ (length_lt_of_decodeNext? hnext) rest rfl]

/-- The bytes that are left over hold no complete block. -/
theorem decodeUntilError_rest {a rest : Bytes} {ms : List α}
    (h : decodeUntilError a = (ms, rest, none)) :
    decodeUntilError (α := α) rest = ([], rest, none) := by
  have happend := decodeUntilError_append (α := α) a []
  rw [h, resume, List.append_nil, List.append_nil, h] at happend
  obtain ⟨hms, hrest⟩ := Prod.mk.inj happend
  rw [Prod.ext_iff]
  exact ⟨List.self_eq_append_right.1 hms, hrest.symm⟩

/-- What has been decoded stays decoded. -/
theorem messages_prefix (a b : Bytes) : messages (α := α) a <+: messages (a ++ b) := by
  unfold messages
  rw [decodeUntilError_append]
  obtain ⟨ms, rest, e⟩ := decodeUntilError (α := α) a
  cases e with
  | none => exact List.prefix_append _ _
  | some e => exact List.prefix_refl _

end SimCheck.Wire
