import SimCheck.Coordinator.Network
import SimCheck.Proofs.Delivery.Stream

/-!
# What a history tells

A history lists what has happened to a coordinator, the latest first.  It tells which bytes have come
from a worker, which observations have been decoded from them since a run began, and which of these
have been used.

* `stream id h` are the bytes from the worker with the number;
* `decoded active id h`, `delivered id h`: its observations since the run began, and the used ones;
* `deliveredInRun id h` are all observations used in the run under a number.  Numbers wrap around, so
  that a number may have had other workers before: `former id h` are the histories at whose ends
  these lost it.
-/

namespace SimCheck

open Wire (Bytes WorkerMessage messages)

namespace History

/-- The bytes taken in from the worker that was admitted last under the number. -/
def stream (id : ClientId) : List Happening → Bytes
  | [] => []
  | .connected i :: h => if i = id then [] else stream id h
  | .received i bytes :: h => if i = id then stream id h ++ bytes else stream id h
  | .began _ :: h | .ended :: h | .delivered _ _ :: h => stream id h

/-- The number of messages that had come from the worker when the run began or the last one ended. -/
def decodedBefore (id : ClientId) : List Happening → ℕ
  | [] => 0
  | .began _ :: h | .ended :: h => (messages (α := WorkerMessage) (stream id h)).length
  | .connected i :: h => if i = id then 0 else decodedBefore id h
  | .received _ _ :: h | .delivered _ _ :: h => decodedBefore id h

/-- The observations of the active property that have been decoded from the worker's stream since the
run began. -/
def decoded (active : Option PropertyId) (id : ClientId) (h : List Happening) : List Bool :=
  ((messages (stream id h)).drop (decodedBefore id h)).filterMap (Peer.observation? active)

/-- The observations of the worker that have been used since the run began. -/
def delivered (id : ClientId) : List Happening → List Bool
  | [] | .began _ :: _ | .ended :: _ => []
  | .connected i :: h => if i = id then [] else delivered id h
  | .received _ _ :: h => delivered id h
  | .delivered i value :: h => if i = id then delivered id h ++ [value] else delivered id h

/-- The observations that have been used since the run began under the number, whoever held it. -/
def deliveredInRun (id : ClientId) : List Happening → List Bool
  | [] | .began _ :: _ | .ended :: _ => []
  | .connected _ :: h | .received _ _ :: h => deliveredInRun id h
  | .delivered i value :: h => if i = id then deliveredInRun id h ++ [value] else deliveredInRun id h

/-- The histories after which the number went from one worker to another, in the present run. -/
def former (id : ClientId) : List Happening → List (List Happening)
  | [] | .began _ :: _ | .ended :: _ => []
  | .connected i :: h =>
    if i = id ∧ .connected id ∈ h then former id h ++ [h] else former id h
  | .received _ _ :: h | .delivered _ _ :: h => former id h

variable {id i : ClientId} {h : List Happening}

/-! ### What has been decoded -/

/-- The messages that had come when the run began are still there. -/
theorem decodedBefore_le (id : ClientId) (h : List Happening) :
    decodedBefore id h ≤ (messages (α := WorkerMessage) (stream id h)).length := by
  induction h with
  | nil => exact Nat.zero_le _
  | cons e h ih =>
    cases e with
    | began p => exact Nat.le_refl _
    | ended => exact Nat.le_refl _
    | delivered i value => exact ih
    | connected i =>
      unfold decodedBefore stream
      split_ifs
      exacts [Nat.zero_le _, ih]
    | received i bytes =>
      unfold decodedBefore stream
      split_ifs
      exacts [Nat.le_trans ih (Wire.messages_prefix _ _).length_le, ih]

/-- Without an active property nothing is decoded. -/
@[simp] theorem decoded_none (id : ClientId) (h : List Happening) : decoded none id h = [] := by
  unfold decoded
  rw [List.filterMap_eq_nil_iff]
  rintro ⟨property, value⟩ -
  rfl

variable (active : Option PropertyId)

@[simp] theorem decoded_began (p : PropertyId) (id : ClientId) (h : List Happening) :
    decoded active id (.began p :: h) = [] := by
  show ((messages (stream id h)).drop (messages (stream id h)).length).filterMap _ = []
  rw [List.drop_length]
  rfl

@[simp] theorem decoded_ended (id : ClientId) (h : List Happening) :
    decoded active id (.ended :: h) = [] := decoded_began active ⟨0⟩ id h

theorem decoded_connected (id : ClientId) (h : List Happening) :
    decoded active id (.connected id :: h) = [] := by
  unfold decoded decodedBefore stream
  rw [if_pos rfl, if_pos rfl, messages, Wire.decodeUntilError_of_none rfl]
  rfl

theorem decoded_connected_of_ne (hi : i ≠ id) (h : List Happening) :
    decoded active id (.connected i :: h) = decoded active id h := by
  unfold decoded
  rw [stream, decodedBefore, if_neg hi, if_neg hi]

theorem decoded_received_of_ne (hi : i ≠ id) (bytes : Bytes) (h : List Happening) :
    decoded active id (.received i bytes :: h) = decoded active id h := by
  unfold decoded
  rw [stream, if_neg hi]
  rfl

/-- New bytes bring the observations that come with the bytes left over from before. -/
theorem decoded_received {rest : Bytes} {ms : List WorkerMessage}
    (hstream : Wire.decodeUntilError (stream id h) = (ms, rest, none)) (bytes : Bytes) :
    decoded active id (.received id bytes :: h) = decoded active id h ++
      (messages (rest ++ bytes)).filterMap (Peer.observation? active) := by
  have hms : messages (stream id h) = ms := congrArg Prod.fst hstream
  have hle := decodedBefore_le id h
  have hnew : messages (stream id h ++ bytes) = ms ++ messages (rest ++ bytes) := by
    unfold messages
    rw [Wire.decodeUntilError_append, hstream]
    rfl
  unfold decoded
  rw [stream, if_pos rfl, hnew, hms]
  show ((ms ++ messages (rest ++ bytes)).drop (decodedBefore id h)).filterMap _ = _
  rw [List.drop_append_of_le_length (hms ▸ hle), List.filterMap_append]

/-! ### What has been used -/

theorem deliveredInRun_eq_nil (hid : ∀ value, .delivered id value ∉ h) :
    deliveredInRun id h = [] := by
  induction h with
  | nil => rfl
  | cons e h ih =>
    have hrest := ih fun value hmem => hid value (List.mem_cons_of_mem _ hmem)
    cases e with
    | began p => rfl
    | ended => rfl
    | connected i => exact hrest
    | received i bytes => exact hrest
    | delivered i value =>
      have hne : i ≠ id := by
        rintro rfl
        exact hid value List.mem_cons_self
      rw [deliveredInRun, if_neg hne]
      exact hrest

/-- The lists of a number's workers, which make up what has been used under the number. -/
theorem deliveredInRun_connected (hid : ∀ value, .delivered i value ∈ h → .connected i ∈ h)
    (htotal : deliveredInRun id h = ((former id h).map (delivered id)).flatten ++ delivered id h) :
    deliveredInRun id (.connected i :: h) =
      ((former id (.connected i :: h)).map (delivered id)).flatten
        ++ delivered id (.connected i :: h) := by
  rw [deliveredInRun, former, delivered]
  by_cases hi : i = id
  · subst hi
    by_cases hmem : .connected i ∈ h
    · rw [if_pos ⟨rfl, hmem⟩, if_pos rfl, htotal]
      simp
    · -- The first worker with this number: nothing has been used under it.
      have hnil := deliveredInRun_eq_nil fun value hvalue => hmem (hid value hvalue)
      rw [hnil] at htotal
      rw [if_neg fun h => hmem h.2, if_pos rfl, hnil, (List.append_eq_nil_iff.1 htotal.symm).1]
      rfl
  · rw [if_neg fun h => hi h.1, if_neg hi]
    exact htotal

/-- A number that has been given once has had one worker. -/
theorem former_eq_nil (hcount : h.count (.connected id) ≤ 1) : former id h = [] := by
  induction h with
  | nil => rfl
  | cons e h ih =>
    have hrest := ih (Nat.le_trans List.count_le_count_cons hcount)
    cases e with
    | began p => rfl
    | ended => rfl
    | received i bytes => exact hrest
    | delivered i value => exact hrest
    | connected i =>
      rw [former, if_neg, hrest]
      rintro ⟨rfl, hmem⟩
      rw [List.count_cons_self] at hcount
      have hpos := List.count_pos_iff.2 hmem
      omega

end History

end SimCheck
