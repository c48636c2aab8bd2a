import SimCheck.Proofs.Delivery.Runs

/-!
# Delivery in order

* `Reached net active outputs s`: the station is reached by whole calls, in a network that does
  anything.  Runs are begun and ended in turn, workers are waited for between runs, and the run in
  progress has given these outputs;
* `delivered_in_order`: what a run returns of a worker is a prefix of what has been decoded of its
  stream since the run began, and all of it when the worker has left the schedule;
* `Hangup`: a worker whose connection ends within a block.
-/

namespace SimCheck

open History (decoded delivered former)

variable {N : Type} {net : Network N} {active : Option PropertyId}
  {outputs : List (Producer × Bool)} {s : Station N}

/-- The stations that whole calls lead to, with the run in progress and its outputs. -/
inductive Reached (net : Network N) :
    Option PropertyId → List (Producer × Bool) → Station N → Prop
  | create (settings : SamplingSettings) (network : N) :
      Reached net none [] ⟨.create settings, network⟩
  | setOrigin {active : Option PropertyId} {outputs : List (Producer × Bool)} {s : Station N}
      (values : Valuation) (h : Reached net active outputs s) :
      Reached net active outputs { s with coordinator := s.coordinator.setOrigin values }
  | waitForClients {s : Station N} (count fuel : ℕ) (h : Reached net none [] s) :
      Reached net none [] (s.waitForClients net count fuel)
  | start {s : Station N} (p : PropertyId) (h : Reached net none [] s) :
      Reached net (some p) [] (s.start net p)
  | beginRun {s : Station N} (p : PropertyId) (values : Valuation) (h : Reached net none [] s) :
      Reached net (some p) [] (s.beginRun net p values)
  | simulate {p : PropertyId} {outputs : List (Producer × Bool)} {s next : Station N} (fuel : ℕ)
      (value : Bool) (h : Reached net (some p) outputs s)
      (hnext : s.nextSample net fuel = .simulate next) :
      Reached net (some p) (outputs ++ [(.local, value)]) next
  | deliver {p : PropertyId} {outputs : List (Producer × Bool)} {s next : Station N} (fuel : ℕ)
      {id : ClientId} {value : Bool} (h : Reached net (some p) outputs s)
      (hnext : s.nextSample net fuel = .deliver id value next) :
      Reached net (some p) (outputs ++ [(.remote id, value)]) next
  | stop {p : PropertyId} {outputs : List (Producer × Bool)} {s : Station N}
      (h : Reached net (some p) outputs s) : Reached net none [] (s.stop net)

/-- A new coordinator has nothing in its books. -/
theorem joined_create (settings : SamplingSettings) : Joined none [] (.create settings) where
  distinct := List.nodup_nil
  scheduled := fun _ hq => (nomatch hq)
  leftover := fun _ hq => (nomatch hq)
  connected := fun _ hq => (nomatch hq)
  numbered := fun _ _ hmem => (nomatch hmem)
  total := fun _ => rfl
  account := fun _ hq => (nomatch hq)
  settled := fun id _ => (History.decoded_none id []).symm
  formerly := fun _ _ hh => (nomatch hh)
  outputs := fun _ => rfl
  active := rfl
  localOnly := rfl

theorem InBalance.simulated (h : InBalance active outputs s.coordinator) (value : Bool) :
    InBalance active (outputs ++ [(.local, value)]) s.coordinator := by
  rcases h with h | ⟨hactive, h⟩
  · exact .inl { h.toBalanced.simulated value with active := h.active, localOnly := h.localOnly }
  · exact .inr ⟨hactive, { h.toBalanced.simulated value with
      active := h.active, localOnly := h.localOnly, unused := h.unused }⟩

/-- **The books are balanced at all times.** -/
theorem Reached.inBalance (h : Reached net active outputs s) :
    InBalance active outputs s.coordinator := by
  induction h with
  | create settings network => exact .inl (joined_create settings)
  | setOrigin values _ ih => exact ih.setOrigin values
  | waitForClients count fuel _ ih =>
    exact .inl ((Stable.joined none []).waitForClients net count fuel ih.joined)
  | start p _ ih => exact .inl (ih.joined.station_start net p)
  | beginRun p values _ ih => exact ih.joined.beginRun net p values
  | simulate fuel value _ hnext ih =>
    have hoffer := ih.nextSample net fuel
    rw [hnext] at hoffer
    exact InBalance.simulated hoffer value
  | deliver fuel _ hnext ih =>
    have hoffer := ih.nextSample net fuel
    rw [hnext] at hoffer
    exact hoffer
  | stop _ ih => exact .inl (ih.stop net)

/-- **Delivery in order.**  The observations a run of `p` returns of a worker are a prefix of those
that have been decoded of its stream since the run began, none omitted and none repeated; they are
all of them when the worker is no longer in the schedule.  A number that has been given again has
outputs of its earlier workers as well, with each of whom it is the same. -/
theorem delivered_in_order {p : PropertyId} (h : Reached net (some p) outputs s) (id : ClientId) :
    returned id outputs = ((former id s.coordinator.history).map (delivered id)).flatten
        ++ delivered id s.coordinator.history ∧
      (s.coordinator.history.count (.connected id) ≤ 1 → former id s.coordinator.history = []) ∧
      (∀ h' ∈ s.coordinator.history :: former id s.coordinator.history,
        delivered id h' <+: decoded (some p) id h') ∧
      (.remote id ∉ s.coordinator.schedule →
        delivered id s.coordinator.history = decoded (some p) id s.coordinator.history) := by
  obtain ⟨hbalanced, hactive⟩ := h.inBalance.balanced
  rw [← hactive]
  refine ⟨?_, History.former_eq_nil, ?_, ?_⟩
  · rw [hbalanced.outputs, hbalanced.total]
  · intro h' hh'
    rcases List.mem_cons.1 hh' with rfl | hh'
    · exact hbalanced.delivered_prefix id
    · exact hbalanced.formerly id h' hh'
  · intro hschedule
    refine hbalanced.settled id fun hid => hschedule ?_
    obtain ⟨q, hq, rfl⟩ := List.mem_map.1 hid
    exact hbalanced.scheduled q hq

/-! ### A connection that ends within a block -/

namespace Hangup

/-- Polls find what they are told to, one after the other, and sockets take everything. -/
def network : Network (List (List Readiness)) where
  poll
    | _, [] => (.ready [], [])
    | _, found :: rest => (.ready found, rest)
  write _ bytes rest := (.taken bytes.length, rest)
  isIdle _ _ := false
  hasTime _ := false

/-- One observation, and the beginning of another. -/
def bytes : Wire.Bytes := Wire.encode (Wire.WorkerMessage.observation ⟨1⟩ true) ++ [4, 0, 0]

/-- A worker connects, sends its bytes and hangs up. -/
def station : Station (List (List Readiness)) :=
  ⟨.create ⟨"127.0.0.1:0", false, 1000, 4, 64⟩, [[.connection true], [.input ⟨0⟩ bytes true]]⟩

/-- Whether the first worker's observation `true` is offered. -/
def isObserved : Offer (List (List Readiness)) → Bool
  | .deliver id value _ => id = ⟨0⟩ && value
  | _ => false

theorem exists_nextSample :
    ∃ next, (station.start network ⟨1⟩).nextSample network 2 = .deliver ⟨0⟩ true next := by
  have hobserved : isObserved ((station.start network ⟨1⟩).nextSample network 2) = true := by
    decide +kernel
  cases hoffer : (station.start network ⟨1⟩).nextSample network 2 with
  | deliver id value next =>
    rw [hoffer, isObserved, Bool.and_eq_true, decide_eq_true_iff] at hobserved
    obtain ⟨rfl, rfl⟩ := hobserved
    exact ⟨next, rfl⟩
  | simulate next => simp [hoffer, isObserved] at hobserved
  | stalled => simp [hoffer, isObserved] at hobserved

/-- The observation that came before the connection ended is delivered. -/
theorem delivered_in_order_hangup : ∃ next : Station (List (List Readiness)),
    Reached network (some ⟨1⟩) [(.remote ⟨0⟩, true)] next ∧
    [true] = ((former ⟨0⟩ next.coordinator.history).map (delivered ⟨0⟩)).flatten
        ++ delivered ⟨0⟩ next.coordinator.history ∧
      (next.coordinator.history.count (.connected ⟨0⟩) ≤ 1 →
        former ⟨0⟩ next.coordinator.history = []) ∧
      (∀ h' ∈ next.coordinator.history :: former ⟨0⟩ next.coordinator.history,
        delivered ⟨0⟩ h' <+: decoded (some ⟨1⟩) ⟨0⟩ h') ∧
      (.remote ⟨0⟩ ∉ next.coordinator.schedule → delivered ⟨0⟩ next.coordinator.history
        = decoded (some ⟨1⟩) ⟨0⟩ next.coordinator.history) := by
  obtain ⟨next, hnext⟩ := exists_nextSample
  have hreached : Reached network (some ⟨1⟩) [(.remote ⟨0⟩, true)] next :=
    .deliver 2 (.start ⟨1⟩ (.create _ _)) hnext
  exact ⟨next, hreached, delivered_in_order hreached ⟨0⟩⟩

end Hangup

end SimCheck
