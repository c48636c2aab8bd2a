import SimCheck.Proofs.Delivery.Turns

/-!
# Runs and the books

* `Orderly.balanced_nil`: when a run begins or ends and no observations are kept, the books are
  balanced;
* `Apart active outputs`: workers take no part in the run;
* `InBalance active outputs`: a run of either kind is in progress, or none is;
* `Joined.station_start`, `Joined.beginRun`, `InBalance.stop`, `InBalance.nextSample`: one lemma for
  every call of a station.
-/

namespace SimCheck

open History (stream decoded delivered deliveredInRun former)

variable {c : Coordinator} {active : Option PropertyId} {outputs : List (Producer × Bool)}

/-! ### Beginnings and ends -/

/-- A run begins, or the run ends. -/
def Happening.IsTurnover (e : Happening) : Prop := (∃ p, e = .began p) ∨ e = .ended

/-- At the beginning or the end of a run nothing has been used of any worker yet. -/
theorem history_turnover {e : Happening} (he : e.IsTurnover) (active : Option PropertyId)
    (id : ClientId) (h : List Happening) :
    stream id (e :: h) = stream id h ∧ delivered id (e :: h) = [] ∧ deliveredInRun id (e :: h) = [] ∧
      former id (e :: h) = [] ∧ decoded active id (e :: h) = [] := by
  rcases he with ⟨p, rfl⟩ | rfl
  · exact ⟨rfl, rfl, rfl, rfl, History.decoded_began active p id h⟩
  · exact ⟨rfl, rfl, rfl, rfl, History.decoded_ended active id h⟩

theorem Orderly.turnover (h : Orderly c) {e : Happening} (he : e.IsTurnover)
    (active : Option PropertyId) (localOnly : Bool) :
    Orderly { c with active, localOnly, history := e :: c.history } where
  distinct := h.distinct
  scheduled := h.scheduled
  leftover := fun q hq hlive => (history_turnover he none q.id c.history).1 ▸ h.leftover q hq hlive
  connected := fun q hq => List.mem_cons_of_mem _ (h.connected q hq)
  numbered := by
    intro id value hmem
    refine List.mem_cons_of_mem _ (h.numbered id value ?_)
    rcases List.mem_cons.1 hmem with heq | hmem
    · rcases he with ⟨p, rfl⟩ | rfl <;> cases heq
    · exact hmem
  total := by
    intro id
    obtain ⟨-, hdelivered, hrun, hformer, -⟩ := history_turnover he none id c.history
    show deliveredInRun id (e :: c.history) = ((former id (e :: c.history)).map (delivered id)).flatten
      ++ delivered id (e :: c.history)
    rw [hrun, hformer, hdelivered]
    rfl

/-- **New books are balanced when no observations are kept.** -/
theorem Orderly.balanced_nil (h : Orderly c) (hsamples : ∀ q ∈ c.peers, q.samples = [])
    {e : Happening} (he : e.IsTurnover) (active : Option PropertyId) (localOnly : Bool) :
    Balanced [] { c with active, localOnly, history := e :: c.history } where
  toOrderly := h.turnover he active localOnly
  account := by
    intro q hq
    obtain ⟨-, hdelivered, -, -, hdecoded⟩ := history_turnover he active q.id c.history
    show delivered q.id (e :: c.history) ++ q.samples = decoded active q.id (e :: c.history)
    rw [hdelivered, hdecoded, hsamples q hq]
    rfl
  settled := by
    intro id _
    obtain ⟨-, hdelivered, -, -, hdecoded⟩ := history_turnover he active id c.history
    exact hdelivered.trans hdecoded.symm
  formerly := by
    intro id h' hh'
    replace hh' : h' ∈ former id (e :: c.history) := hh'
    rw [(history_turnover he active id c.history).2.2.2.1] at hh'
    cases hh'
  outputs := fun id => (history_turnover he active id c.history).2.2.1.symm

/-- Workers take no part in the run in progress, and nothing is kept of what they have sent. -/
structure Apart (active : Option PropertyId) (outputs : List (Producer × Bool)) (c : Coordinator) :
    Prop extends Balanced outputs c where
  active : c.active = active
  localOnly : c.localOnly = true
  unused : ∀ q ∈ c.peers, q.samples = []

theorem Peer.later_start (p : PropertyId) (q : Peer) :
    q.Later (if q.dead then q else { q with samples := [] }.queue (.start p)) := by
  split_ifs
  exacts [⟨rfl, rfl, fun h => h⟩, ⟨rfl, rfl, fun h => h⟩]

theorem Joined.start (h : Joined none [] c) (p : PropertyId) : Joined (some p) [] (c.start p) where
  toBalanced := by
    refine (h.toOrderly.map (Peer.later_start p)).balanced_nil ?_ (.inl ⟨p, rfl⟩) (some p) false
    intro q' hq'
    obtain ⟨q, hq, rfl⟩ := List.mem_map.1 hq'
    split_ifs
    exacts [h.samples_eq_nil h.active hq, rfl]
  active := rfl
  localOnly := rfl

theorem Joined.startLocal (h : Joined none [] c) (p : PropertyId) :
    Apart (some p) [] (c.startLocal p) where
  toBalanced := h.toOrderly.balanced_nil (fun _ hq => h.samples_eq_nil h.active hq)
    (.inl ⟨p, rfl⟩) (some p) true
  active := rfl
  localOnly := rfl
  unused := fun _ hq => h.samples_eq_nil h.active hq

theorem Balanced.setOrigin (h : Balanced outputs c) (values : Valuation) :
    Balanced outputs (c.setOrigin values) where
  toOrderly := { h with }
  account := h.account
  settled := h.settled
  formerly := h.formerly
  outputs := h.outputs

theorem Joined.setOrigin (h : Joined active outputs c) (values : Valuation) :
    Joined active outputs (c.setOrigin values) :=
  { h.toBalanced.setOrigin values with active := h.active, localOnly := h.localOnly }

theorem Apart.stopLocal (h : Apart active outputs c) : Joined none [] c.stopLocal where
  toBalanced := h.toOrderly.balanced_nil h.unused (.inr rfl) none false
  active := rfl
  localOnly := rfl

theorem Peer.worn_stop (q : Peer) : q.Worn (if q.dead then q else q.queue .stop) := by
  split_ifs
  exacts [.refl q, ⟨⟨rfl, rfl, fun h => h⟩, rfl⟩]

theorem Orderly.stop (h : Orderly c) : Orderly c.stop :=
  { h.map fun q => (Peer.worn_stop q).toLater with }

/-- What was not used is dropped, and nothing is kept when dead workers are forgotten. -/
theorem Orderly.forgetDead (h : Orderly c) (hactive : c.active = none)
    (hlocal : c.localOnly = false) : Joined none [] c.forgetDead := by
  have hlater (q : Peer) : q.Later { q with samples := [] } := ⟨rfl, rfl, fun h => h⟩
  have hcleared : Joined none []
      { c with
        peers := c.peers.map fun p => { p with samples := [] }
        history := .ended :: c.history } := by
    refine ⟨?_, hactive, hlocal⟩
    refine (h.map hlater).balanced_nil ?_ (.inr rfl) c.active c.localOnly
    intro q' hq'
    obtain ⟨q, -, rfl⟩ := List.mem_map.1 hq'
    rfl
  refine List.foldlRecOn _ _ (motive := Joined none []) hcleared fun c hc id _ => ?_
  have hempty : ∀ q ∈ c.peers, q.id = id → q.samples = [] :=
    fun q hq _ => hc.samples_eq_nil hc.active hq
  exact { hc.toBalanced.remove hempty with active := hc.active, localOnly := hc.localOnly }

/-! ### Stations -/

section Stations

variable {N : Type} (net : Network N) {s : Station N}

/-- A run has given these outputs, with or without workers, or no run is in progress. -/
def InBalance (active : Option PropertyId) (outputs : List (Producer × Bool)) (c : Coordinator) :
    Prop :=
  Joined active outputs c ∨ active.isSome ∧ Apart active outputs c

theorem InBalance.balanced (h : InBalance active outputs c) :
    Balanced outputs c ∧ c.active = active := by
  rcases h with h | ⟨-, h⟩
  exacts [⟨h.toBalanced, h.active⟩, ⟨h.toBalanced, h.active⟩]

theorem InBalance.setOrigin (h : InBalance active outputs c) (values : Valuation) :
    InBalance active outputs (c.setOrigin values) := by
  rcases h with h | ⟨hactive, h⟩
  · exact .inl (h.setOrigin values)
  · exact .inr ⟨hactive, { h.toBalanced.setOrigin values with
      active := h.active, localOnly := h.localOnly, unused := h.unused }⟩

/-- Between runs no run is without workers. -/
theorem InBalance.joined (h : InBalance none outputs c) : Joined none outputs c := by
  rcases h with h | ⟨hactive, -⟩
  · exact h
  · cases hactive

theorem Joined.station_start (h : Joined none [] s.coordinator) (p : PropertyId) :
    Joined (some p) [] (s.start net p).coordinator :=
  (Stable.joined (some p) []).flushAll net _ (h.start p)

theorem Joined.beginRun (h : Joined none [] s.coordinator) (p : PropertyId) (values : Valuation) :
    InBalance (some p) [] (s.beginRun net p values).coordinator := by
  have hpin : Joined none [] (s.coordinator.pinOrigin values) := h.setOrigin _
  rw [Station.beginRun]
  split_ifs
  · exact .inl (Joined.station_start net (s := { s with coordinator := _ }) hpin p)
  · exact .inr ⟨rfl, hpin.startLocal p⟩

theorem InBalance.stop {p : PropertyId} (h : InBalance (some p) outputs s.coordinator) :
    Joined none [] (s.stop net).coordinator := by
  rw [Station.stop, h.balanced.2]
  rcases h with h | ⟨-, h⟩
  · rw [if_neg (by simp [h.localOnly])]
    -- While the end of the run is announced, the old observations are still there.
    have hended : Orderly s.coordinator.stop ∧ s.coordinator.stop.active = none ∧
        s.coordinator.stop.localOnly = false := ⟨h.toOrderly.stop, rfl, h.localOnly⟩
    obtain ⟨horderly, hactive, hlocal⟩ := (Stable.orderly.and (Stable.run none false)).flushAll net
      (s := { s with coordinator := s.coordinator.stop })
      (s.coordinator.stop.live.map (·.id)) hended
    exact horderly.forgetDead hactive hlocal
  · rw [if_pos h.localOnly]
    exact h.stopLocal

/-- What an offer leads to. -/
def InBalance.Offers (active : Option PropertyId) (outputs : List (Producer × Bool)) :
    Offer N → Prop
  | .simulate next => InBalance active outputs next.coordinator
  | .deliver id value next => InBalance active (outputs ++ [(.remote id, value)]) next.coordinator
  | .stalled => True

/-- **However long a worker is waited for, the books stay balanced.** -/
theorem Joined.serve (fuel : ℕ) (h : Joined active outputs s.coordinator) :
    InBalance.Offers active outputs (s.serve net fuel) := by
  have hturn (c : Coordinator) (hc : Joined active outputs c) :
      c.turn.LeadsTo (Joined active outputs)
        fun id value => Joined active (outputs ++ [(.remote id, value)]) := by
    have hturn := hc.turn
    cases hnext : c.turn <;> rw [hnext] at hturn <;> exact hturn
  have hoffer := (Stable.joined active outputs).serve net hturn fuel h
  cases hserve : s.serve net fuel with
  | simulate next =>
    rw [hserve] at hoffer
    exact .inl hoffer
  | deliver id value next =>
    rw [hserve] at hoffer
    exact .inl hoffer
  | stalled => trivial

theorem InBalance.nextSample (fuel : ℕ) (h : InBalance active outputs s.coordinator) :
    InBalance.Offers active outputs (s.nextSample net fuel) := by
  rw [Station.nextSample]
  rcases h with h | ⟨hactive, h⟩
  · rw [if_neg (by simp [h.localOnly])]
    exact ((Stable.joined active outputs).poll net none h).serve net fuel
  · rw [if_pos h.localOnly]
    exact .inr ⟨hactive, h⟩

end Stations

end SimCheck
