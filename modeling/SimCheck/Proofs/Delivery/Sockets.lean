import SimCheck.Proofs.Delivery.Ledger

/-!
# What the sockets cannot change

* `Lasting net I`: whatever a socket of `net` does to a station, `I` stays true of it;
* `Lasting.poll`, `Lasting.waitForClients`: then whole polls keep `I` true as well;
* `Lasting.exists_turn`, `Lasting.serve`: so does the wait for a worker, if turns do;
* `Stable P`: `P` is about the coordinator, and lasts in every network;
* `Joined active outputs`: workers take part in the run, if there is one, and the books are balanced.
  It is stable.
-/

namespace SimCheck

open Wire (Bytes)

/-! ### Turns and offers -/

/-- `P` holds when a path is simulated or a worker waited for, and `D` when an observation is used. -/
def Turn.LeadsTo (P : Coordinator → Prop) (D : ClientId → Bool → Coordinator → Prop) : Turn → Prop
  | .simulate next | .wait _ next => P next
  | .deliver id value next => D id value next

theorem Turn.LeadsTo.imp {P P' : Coordinator → Prop} {D D' : ClientId → Bool → Coordinator → Prop}
    {t : Turn} (h : t.LeadsTo P D) (hP : ∀ c, P c → P' c)
    (hD : ∀ id value c, D id value c → D' id value c) : t.LeadsTo P' D' := by
  cases t with
  | simulate next => exact hP next h
  | deliver id value next => exact hD id value next h
  | wait id next => exact hP next h

/-- What is kept when producers rotate, workers leave and observations are used is kept by turns. -/
theorem Turn.leadsTo_of_keeps {P : Coordinator → Prop} (hrotate : ∀ {c}, P c → P c.rotate)
    (hdrop : ∀ {c} id, P c → P (c.dropHead id))
    (hconsume : ∀ {c} id value, P c → P (c.consume id value)) {c : Coordinator} (h : P c) :
    c.turn.LeadsTo P fun _ _ => P := by
  fun_induction Coordinator.turn c with
  | case1 c hschedule => exact h
  | case2 c ps hschedule => exact hrotate h
  | case3 c id ps hschedule hpeer ih => exact ih (hdrop id h)
  | case4 c id ps hschedule q hpeer value rest hsamples => exact hrotate (hconsume id value h)
  | case5 c id ps hschedule q hpeer hsamples hdead ih => exact ih (hdrop id h)
  | case6 c id ps hschedule q hpeer hsamples hdead => exact h

/-- `I` holds when a path is simulated, and `D` when an observation is used. -/
def Offer.Leaves {N : Type} (I : Station N → Prop) (D : ClientId → Bool → Station N → Prop) :
    Offer N → Prop
  | .simulate next => I next
  | .deliver id value next => D id value next
  | .stalled => True

/-- `P` holds of the coordinator when a path is simulated, and `D` when an observation is used. -/
def Offer.LeadsTo {N : Type} (P : Coordinator → Prop) (D : ClientId → Bool → Coordinator → Prop) :
    Offer N → Prop :=
  Leaves (fun s => P s.coordinator) fun id value s => D id value s.coordinator

/-! ### Stations -/

/-- What stays true of a station whatever its sockets do.  A worker is admitted if there is room for
it. -/
structure Lasting {N : Type} (net : Network N) (I : Station N → Prop) : Prop where
  polled {s : Station N} (waitingFor : Option ClientId) :
    I s → I { s with network := (net.poll waitingFor s.network).2 }
  register {s : Station N} : s.coordinator.isFull = false → I s →
    I { s with coordinator := s.coordinator.register }
  skipNumber {s : Station N} : I s → I { s with coordinator := s.coordinator.skipNumber }
  receive {s : Station N} (id : ClientId) (bytes : Bytes) (ended : Bool) :
    I s → I { s with coordinator := s.coordinator.receive id bytes ended }
  markDead {s : Station N} (id : ClientId) :
    I s → I { s with coordinator := s.coordinator.markDead id }
  flush {s : Station N} (id : ClientId) : I s → I (s.flush net id)

namespace Lasting

variable {N : Type} {net : Network N} {I : Station N → Prop} {s : Station N}

theorem flushAll (hI : Lasting net I) (ids : List ClientId) (h : I s) : I (s.flushAll net ids) :=
  List.foldlRecOn ids _ (motive := I) h fun _ h id _ => hI.flush id h

theorem flushLive (hI : Lasting net I) (id : ClientId) (h : I s) : I (s.flushLive net id) := by
  unfold Station.flushLive
  split
  · split
    · exact h
    · exact hI.flush id h
  · exact h

theorem handle (hI : Lasting net I) (r : Readiness) (h : I s) : I (s.handle net r) := by
  cases r with
  | connection watched =>
    rw [Station.handle]
    split_ifs with hfull
    · exact h
    · exact hI.flush _ (hI.register (eq_false_of_ne_true hfull) h)
    · exact hI.skipNumber h
  | input id bytes ended => exact hI.flushLive id (hI.receive id bytes ended h)

theorem poll (hI : Lasting net I) (waitingFor : Option ClientId) (h : I s) :
    I (s.poll net waitingFor).2 := by
  have hpolled := hI.polled waitingFor h
  unfold Station.poll
  split <;> rename_i heq <;> rw [heq] at hpolled
  · exact List.foldlRecOn _ _ (motive := I) hpolled fun _ h r _ => hI.handle r h
  · exact hpolled

theorem waitForClients (hI : Lasting net I) (count fuel : ℕ) (h : I s) :
    I (s.waitForClients net count fuel) := by
  induction fuel generalizing s with
  | zero => exact h
  | succ fuel ih =>
    have hpoll := hI.poll none h
    unfold Station.waitForClients
    split_ifs
    · exact h
    · rcases hpolled : s.poll net none with ⟨_ | _, s'⟩ <;> rw [hpolled] at hpoll
      · exact hpoll
      · exact ih hpoll

/-- An offer is the turn of a station for which `I` holds, if the turns that wait keep `I` true. -/
theorem exists_turn (hI : Lasting net I)
    (hwait : ∀ {s : Station N} {next : Coordinator} {id : ClientId},
      I s → s.coordinator.turn = .wait id next → I { s with coordinator := next })
    (fuel : ℕ) (h : I s) :
    match s.serve net fuel with
    | .simulate t => ∃ c, I { t with coordinator := c } ∧ c.turn = .simulate t.coordinator
    | .deliver id value t =>
      ∃ c, I { t with coordinator := c } ∧ c.turn = .deliver id value t.coordinator
    | .stalled => True := by
  induction fuel generalizing s with
  | zero => trivial
  | succ fuel ih =>
    rw [Station.serve]
    cases hc : s.coordinator.turn with
    | simulate c => exact ⟨_, h, hc⟩
    | deliver id value c => exact ⟨_, h, hc⟩
    | wait id c =>
      have hnext := hwait h hc
      dsimp only
      split_ifs
      · exact ih (hI.markDead id hnext)
      · have hpoll := hI.poll (some id) hnext
        rcases hpolled : Station.poll net (some id) { s with coordinator := c } with
          ⟨_ | _, s'⟩ <;> rw [hpolled] at hpoll
        · exact ih (hI.markDead id hpoll)
        · exact ih hpoll

/-- **What turns keep true stays true however long a worker is waited for.** -/
theorem serve (hI : Lasting net I) {D : ClientId → Bool → Station N → Prop}
    (hturn : ∀ s : Station N, I s → s.coordinator.turn.LeadsTo
      (fun c => I { s with coordinator := c }) fun id value c => D id value { s with coordinator := c })
    (fuel : ℕ) (h : I s) : (s.serve net fuel).Leaves I D := by
  have hlast := hI.exists_turn
    (fun {s _ _} hs hwait => by
      have hnext := hturn s hs
      rwa [hwait] at hnext) fuel h
  cases hoffer : s.serve net fuel with
  | stalled => trivial
  | simulate t =>
    rw [hoffer] at hlast
    obtain ⟨c, hc, hsimulate⟩ := hlast
    have hnext := hturn _ hc
    rwa [hsimulate] at hnext
  | deliver id value t =>
    rw [hoffer] at hlast
    obtain ⟨c, hc, hdeliver⟩ := hlast
    have hnext := hturn _ hc
    rwa [hdeliver] at hnext

end Lasting

/-! ### Coordinators -/

/-- What stays true whatever the sockets do.  A worker is admitted if there is room for it. -/
structure Stable (P : Coordinator → Prop) : Prop where
  register {c : Coordinator} : c.isFull = false → P c → P c.register
  skipNumber {c : Coordinator} : P c → P c.skipNumber
  receive {c : Coordinator} (id : ClientId) (bytes : Bytes) (ended : Bool) :
    P c → P (c.receive id bytes ended)
  flushed {c : Coordinator} (id : ClientId) (count : ℕ) : P c → P (c.flushed id count)
  markDead {c : Coordinator} (id : ClientId) : P c → P (c.markDead id)

namespace Stable

section Stations

variable {N : Type} (net : Network N) {P : Coordinator → Prop}
  {D : ClientId → Bool → Coordinator → Prop} {s : Station N}

/-- What is stable lasts in every network. -/
theorem lasting (hP : Stable P) : Lasting net fun s => P s.coordinator where
  polled _ h := h
  register := hP.register
  skipNumber := hP.skipNumber
  receive := hP.receive
  markDead := hP.markDead
  flush {s} id h := by
    unfold Station.flush
    split
    · exact h
    · split
      · exact h
      · split
        · exact hP.flushed _ _ h
        · exact hP.markDead _ h

theorem flushAll (hP : Stable P) (ids : List ClientId) (h : P s.coordinator) :
    P (s.flushAll net ids).coordinator :=
  (hP.lasting net).flushAll ids h

theorem poll (hP : Stable P) (waitingFor : Option ClientId) (h : P s.coordinator) :
    P (s.poll net waitingFor).2.coordinator :=
  (hP.lasting net).poll waitingFor h

theorem waitForClients (hP : Stable P) (count fuel : ℕ) (h : P s.coordinator) :
    P (s.waitForClients net count fuel).coordinator :=
  (hP.lasting net).waitForClients count fuel h

/-- An offer is the turn of a coordinator for which `P` holds, if the turns that wait keep `P` true. -/
theorem exists_turn (hP : Stable P)
    (hwait : ∀ {c next : Coordinator} {id : ClientId}, P c → c.turn = .wait id next → P next)
    (fuel : ℕ) (h : P s.coordinator) :
    match s.serve net fuel with
    | .simulate t => ∃ c, P c ∧ c.turn = .simulate t.coordinator
    | .deliver id value t => ∃ c, P c ∧ c.turn = .deliver id value t.coordinator
    | .stalled => True :=
  (hP.lasting net).exists_turn hwait fuel h

theorem serve (hP : Stable P) (hturn : ∀ c, P c → c.turn.LeadsTo P D) (fuel : ℕ)
    (h : P s.coordinator) : (s.serve net fuel).LeadsTo P D :=
  (hP.lasting net).serve (fun s hs => hturn s.coordinator hs) fuel h

end Stations

/-! ### What is stable -/

theorem and {P Q : Coordinator → Prop} (hP : Stable P) (hQ : Stable Q) :
    Stable fun c => P c ∧ Q c where
  register hroom h := ⟨hP.register hroom h.1, hQ.register hroom h.2⟩
  skipNumber h := ⟨hP.skipNumber h.1, hQ.skipNumber h.2⟩
  receive id bytes ended h := ⟨hP.receive id bytes ended h.1, hQ.receive id bytes ended h.2⟩
  flushed id count h := ⟨hP.flushed id count h.1, hQ.flushed id count h.2⟩
  markDead id h := ⟨hP.markDead id h.1, hQ.markDead id h.2⟩

/-- Sockets do not begin or end runs. -/
theorem run (active : Option PropertyId) (localOnly : Bool) :
    Stable fun c => c.active = active ∧ c.localOnly = localOnly where
  register _ h := h
  skipNumber h := h
  receive id bytes ended h := by rwa [active_receive, localOnly_receive]
  flushed _ _ h := h
  markDead _ h := h

theorem orderly : Stable Orderly where
  register _ h := h.register
  skipNumber h := { h with }
  receive id bytes ended h := h.receive id bytes ended
  flushed id count h := h.map fun q => (Peer.Worn.ite (Peer.worn_flushed count) id q).toLater
  markDead id h := h.map fun q => (Peer.Worn.ite Peer.worn_dead id q).toLater

theorem balanced (outputs : List (Producer × Bool)) : Stable (Balanced outputs) where
  register _ h := h.register
  skipNumber h := h.skipNumber
  receive id bytes ended h := h.receive id bytes ended
  flushed id count h := h.map (Peer.Worn.ite (Peer.worn_flushed count) id)
  markDead id h := h.map (Peer.Worn.ite Peer.worn_dead id)

end Stable

/-- Workers take part in the run, if there is one; it has given these outputs, and the books are
balanced. -/
structure Joined (active : Option PropertyId) (outputs : List (Producer × Bool)) (c : Coordinator) :
    Prop extends Balanced outputs c where
  active : c.active = active
  localOnly : c.localOnly = false

theorem joined_iff {active : Option PropertyId} {outputs : List (Producer × Bool)}
    {c : Coordinator} :
    Joined active outputs c ↔ Balanced outputs c ∧ c.active = active ∧ c.localOnly = false :=
  ⟨fun h => ⟨h.toBalanced, h.active, h.localOnly⟩, fun h => ⟨h.1, h.2.1, h.2.2⟩⟩

/-- **Whatever the sockets do, the books stay balanced.** -/
theorem Stable.joined (active : Option PropertyId) (outputs : List (Producer × Bool)) :
    Stable (Joined active outputs) := by
  have hstable := (Stable.balanced outputs).and (Stable.run active false)
  simpa only [← joined_iff] using hstable

end SimCheck
