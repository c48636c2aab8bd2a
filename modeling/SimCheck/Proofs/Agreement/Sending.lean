import SimCheck.Proofs.Agreement.Conduct

/-!
# What the sockets of workers have taken

The bytes that sockets have taken can be kept beside their network, where the coordinator does not
look.  What the socket of a worker has taken, followed by the output that waits, are the encodings of
the messages that have been queued to the worker, in order.  Numbers wrap around, so that what has
been taken under a number may begin with the output of earlier workers.

* `Network.recording`: the network that keeps what is taken; `takenBy id log`: what of it is under `id`;
* `Station.forget_flush` and its companions: but for what is kept, stations do the same;
* `ConductedFrom.exists_recording`: every station that calls lead to could have kept it;
* `Posted log c`: what is in the log and what waits is what has been written;
* `Posted.silent`, `Posted.announced`, `Posted.take`: one lemma for each thing that can happen to it;
* `ConductedFrom.taken`: whole calls.
-/

namespace SimCheck

open Wire (Bytes CoordinatorMessage encode)

variable {N : Type}

/-! ### Bytes that have been taken -/

/-- The bytes that a socket has taken of those it was offered. -/
def Written.bytes (offered : Bytes) : Written → Bytes
  | taken count => offered.take count
  | failed => []

/-- What the sockets of workers have taken, the latest first. -/
abbrev Takings := List (ClientId × Bytes)

/-- The bytes that have been taken under a number. -/
def takenBy (id : ClientId) : Takings → Bytes
  | [] => []
  | (i, bytes) :: log => if i = id then takenBy id log ++ bytes else takenBy id log

namespace Network

/-- The same network, which keeps what its sockets have taken. -/
def recording (net : Network N) : Network (N × Takings) where
  poll waitingFor n :=
    let r := net.poll waitingFor n.1
    (r.1, r.2, n.2)
  write id bytes n :=
    let r := net.write id bytes n.1
    (r.1, r.2, (id, r.1.bytes bytes) :: n.2)
  isIdle id n := net.isIdle id n.1
  hasTime n := net.hasTime n.1

variable {net : Network N} {n : N × Takings} {next : N}

theorem recording_poll {waitingFor : Option ClientId} {outcome : Polled}
    (h : net.poll waitingFor n.1 = (outcome, next)) :
    net.recording.poll waitingFor n = (outcome, next, n.2) := by
  show ((net.poll waitingFor n.1).1, (net.poll waitingFor n.1).2, n.2) = _
  rw [h]

theorem recording_write {id : ClientId} {bytes : Bytes} {outcome : Written}
    (h : net.write id bytes n.1 = (outcome, next)) :
    net.recording.write id bytes n = (outcome, next, (id, outcome.bytes bytes) :: n.2) := by
  show ((net.write id bytes n.1).1, (net.write id bytes n.1).2,
    (id, (net.write id bytes n.1).1.bytes bytes) :: n.2) = _
  rw [h]

end Network

/-! ### Without the log -/

/-- The station without what its network keeps. -/
def Station.forget (s : Station (N × Takings)) : Station N := ⟨s.coordinator, s.network.1⟩

/-- The offer of the station without what its network keeps. -/
def Offer.forget : Offer (N × Takings) → Offer N
  | simulate next => .simulate next.forget
  | deliver id value next => .deliver id value next.forget
  | stalled => .stalled

namespace Offer

variable {o : Offer (N × Takings)} {next : Station N}

theorem forget_eq_simulate (h : o.forget = .simulate next) :
    ∃ next', o = .simulate next' ∧ next'.forget = next := by
  cases o with
  | simulate next' => exact ⟨next', rfl, simulate.inj h⟩
  | deliver id value next' => cases h
  | stalled => cases h

theorem forget_eq_deliver {id : ClientId} {value : Bool} (h : o.forget = .deliver id value next) :
    ∃ next', o = .deliver id value next' ∧ next'.forget = next := by
  cases o with
  | simulate next' => cases h
  | deliver id' value' next' =>
    cases h
    exact ⟨next', rfl, rfl⟩
  | stalled => cases h

end Offer

namespace Station

variable (net : Network N) (s : Station (N × Takings))

@[simp] theorem coordinator_forget : s.forget.coordinator = s.coordinator := rfl

@[simp] theorem forget_withCoordinator (c : Coordinator) :
    forget { s with coordinator := c } = { s.forget with coordinator := c } := rfl

theorem forget_flush (id : ClientId) :
    (s.flush net.recording id).forget = s.forget.flush net id := by
  unfold flush
  rw [coordinator_forget]
  rcases s.coordinator.peer? id with _ | p
  · rfl
  · dsimp only
    split_ifs
    · rfl
    · rcases hwrite : net.write id p.outgoing s.forget.network with ⟨count | _, network⟩
      · rw [Network.recording_write (n := s.network) hwrite]
        rfl
      · rw [Network.recording_write (n := s.network) hwrite]
        rfl

theorem forget_flushAll (ids : List ClientId) :
    (s.flushAll net.recording ids).forget = s.forget.flushAll net ids :=
  (List.foldl_hom forget fun s id => (forget_flush net s id).symm).symm

theorem forget_flushLive (id : ClientId) :
    (s.flushLive net.recording id).forget = s.forget.flushLive net id := by
  unfold flushLive
  rw [coordinator_forget]
  rcases s.coordinator.peer? id with _ | p
  · rfl
  · dsimp only
    split_ifs
    · rfl
    · exact forget_flush net s id

theorem forget_handle (r : Readiness) :
    (s.handle net.recording r).forget = s.forget.handle net r := by
  cases r with
  | connection watched =>
    rw [handle, handle, coordinator_forget]
    split_ifs
    · rfl
    · exact forget_flush net _ _
    · rfl
  | input id bytes ended => exact forget_flushLive net _ id

theorem forget_poll (waitingFor : Option ClientId) :
    Prod.map id forget (s.poll net.recording waitingFor) = s.forget.poll net waitingFor := by
  unfold poll
  rcases hpoll : net.poll waitingFor s.forget.network with ⟨found | _, network⟩
  · rw [Network.recording_poll (n := s.network) hpoll]
    exact Prod.ext rfl (List.foldl_hom forget fun s r => (forget_handle net s r).symm).symm
  · rw [Network.recording_poll (n := s.network) hpoll]
    rfl

theorem forget_waitForClients (count fuel : ℕ) :
    (s.waitForClients net.recording count fuel).forget = s.forget.waitForClients net count fuel := by
  induction fuel generalizing s with
  | zero => rfl
  | succ fuel ih =>
    have htime : net.recording.hasTime s.network = net.hasTime s.forget.network := rfl
    unfold waitForClients
    rw [← forget_poll, coordinator_forget, htime]
    split_ifs
    · rfl
    · rcases s.poll net.recording none with ⟨_ | _, t⟩
      · rfl
      · exact ih t

theorem forget_serve (fuel : ℕ) : (s.serve net.recording fuel).forget = s.forget.serve net fuel := by
  induction fuel generalizing s with
  | zero => rfl
  | succ fuel ih =>
    have hidle (id : ClientId) :
        net.recording.isIdle id s.network = net.isIdle id s.forget.network := rfl
    rw [serve, serve, coordinator_forget]
    cases s.coordinator.turn with
    | simulate c => rfl
    | deliver id value c => rfl
    | wait id c =>
      have hpoll := forget_poll net { s with coordinator := c } (some id)
      dsimp only
      rw [hidle]
      split_ifs
      · exact ih _
      · rw [← forget_withCoordinator, ← hpoll]
        rcases Station.poll net.recording (some id) { s with coordinator := c } with ⟨_ | _, t⟩
        · exact ih _
        · exact ih t

theorem forget_nextSample (fuel : ℕ) :
    (s.nextSample net.recording fuel).forget = s.forget.nextSample net fuel := by
  unfold nextSample
  rw [← forget_poll, coordinator_forget]
  split_ifs
  · rfl
  · exact forget_serve net _ fuel

theorem forget_start (p : PropertyId) :
    (s.start net.recording p).forget = s.forget.start net p := forget_flushAll net _ _

theorem forget_beginRun (p : PropertyId) (values : Valuation) :
    (s.beginRun net.recording p values).forget = s.forget.beginRun net p values := by
  rw [beginRun, beginRun, coordinator_forget]
  split_ifs
  · exact forget_start net _ p
  · rfl

theorem forget_stop : (s.stop net.recording).forget = s.forget.stop net := by
  unfold stop
  rw [coordinator_forget]
  rcases s.coordinator.active with _ | p
  · rfl
  · dsimp only
    split_ifs
    · rfl
    · have hflush := forget_flushAll net { s with coordinator := s.coordinator.stop }
        (s.coordinator.stop.live.map (·.id))
      rw [← forget_withCoordinator, ← hflush]
      rfl

end Station

/-- **The stations that calls lead to could have kept what their sockets have taken.** -/
theorem ConductedFrom.exists_recording {net : Network N} {initial : N} {job : Option Job}
    {ws : List Switch} {s : Station N} (h : ConductedFrom net initial job ws s) :
    ∃ s', ConductedFrom net.recording (initial, []) job ws s' ∧ s'.forget = s := by
  induction h with
  | create settings => exact ⟨_, .create settings, rfl⟩
  | setOrigin values _ ih =>
    obtain ⟨s', hs', rfl⟩ := ih
    exact ⟨_, hs'.setOrigin values, rfl⟩
  | poll waitingFor _ ih =>
    obtain ⟨s', hs', rfl⟩ := ih
    exact ⟨_, hs'.poll waitingFor, congrArg Prod.snd (s'.forget_poll net waitingFor)⟩
  | waitForClients count fuel _ ih =>
    obtain ⟨s', hs', rfl⟩ := ih
    exact ⟨_, hs'.waitForClients count fuel, s'.forget_waitForClients net count fuel⟩
  | start p _ ih =>
    obtain ⟨s', hs', rfl⟩ := ih
    exact ⟨_, hs'.start p, s'.forget_start net p⟩
  | beginRun p values hjob _ ih =>
    obtain ⟨s', hs', rfl⟩ := ih
    exact ⟨_, hs'.beginRun p values hjob, s'.forget_beginRun net p values⟩
  | simulate fuel _ hnext ih =>
    obtain ⟨s', hs', rfl⟩ := ih
    rw [← Station.forget_nextSample] at hnext
    obtain ⟨next', hnext', rfl⟩ := Offer.forget_eq_simulate hnext
    exact ⟨next', hs'.simulate fuel hnext', rfl⟩
  | deliver fuel _ hnext ih =>
    obtain ⟨s', hs', rfl⟩ := ih
    rw [← Station.forget_nextSample] at hnext
    obtain ⟨next', hnext', rfl⟩ := Offer.forget_eq_deliver hnext
    exact ⟨next', hs'.deliver fuel hnext', rfl⟩
  | stop _ ih =>
    obtain ⟨s', hs', rfl⟩ := ih
    exact ⟨_, hs'.stop, s'.forget_stop net⟩

/-! ### Output that is written and taken -/

/-- The same worker, to which some more may have been written. -/
structure Peer.Addressed (q q' : Peer) : Prop where
  id : q'.id = q.id
  more : ∃ bytes, q'.outgoing = q.outgoing ++ bytes ∧ q'.written = q.written ++ bytes

theorem Peer.Silent.addressed {q q' : Peer} (h : q.Silent q') : q.Addressed q' := by
  refine ⟨h.id, [], by rw [h.outgoing, List.append_nil], ?_⟩
  unfold Peer.written
  rw [h.queued, List.append_nil]

/-- A live worker is told something, whatever becomes of its observations. -/
theorem Peer.addressed_queue (q : Peer) (samples : List Bool) (m : CoordinatorMessage) :
    q.Addressed (if q.dead then q else { q with samples }.queue m) := by
  split_ifs
  · exact (Peer.Silent.refl q).addressed
  · exact ⟨rfl, encode m, rfl, Peer.Briefed.written_queue _ m⟩

/-- What has been taken under the number of a worker, the `n`-th one to hold it, and what waits end
with what has been written to the worker.  For the first one to hold the number they are just that. -/
def Peer.Posted (n : ℕ) (taken : Bytes) (q : Peer) : Prop :=
  ∃ earlier, taken ++ q.outgoing = earlier ++ q.written ∧ (n = 1 → earlier = [])

theorem Peer.Posted.addressed {n : ℕ} {taken : Bytes} {q q' : Peer} (h : q.Posted n taken)
    (hq : q.Addressed q') : q'.Posted n taken := by
  obtain ⟨earlier, heq, hfirst⟩ := h
  obtain ⟨bytes, houtgoing, hwritten⟩ := hq.more
  refine ⟨earlier, ?_, hfirst⟩
  rw [houtgoing, hwritten, ← List.append_assoc, heq, List.append_assoc]

/-- What the sockets of workers have taken and what waits is what has been written to them. -/
structure Posted (log : Takings) (c : Coordinator) : Prop where
  distinct : (c.peers.map (·.id)).Nodup
  connected : ∀ q ∈ c.peers, 0 < connections q.id c.history
  /-- Nothing is taken under a number before it is given. -/
  untouched : ∀ id, connections id c.history = 0 → takenBy id log = []
  posted : ∀ q ∈ c.peers, q.Posted (connections q.id c.history) (takenBy q.id log)

namespace Posted

variable {log : Takings} {c c' : Coordinator}

theorem create (settings : SamplingSettings) : Posted [] (.create settings) where
  distinct := List.nodup_nil
  connected := fun _ hq => (nomatch hq)
  untouched := fun _ _ => rfl
  posted := fun _ hq => (nomatch hq)

/-- Nobody connects, and no output is taken: workers may leave, and more may be written to them. -/
theorem addressed (h : Posted log c)
    (hconnections : ∀ id, connections id c'.history = connections id c.history)
    (hids : (c'.peers.map (·.id)).Sublist (c.peers.map (·.id)))
    (hpeers : ∀ q' ∈ c'.peers, ∃ q ∈ c.peers, q.Addressed q') : Posted log c' where
  distinct := h.distinct.sublist hids
  connected := by
    intro q' hq'
    obtain ⟨q, hq, haddressed⟩ := hpeers q' hq'
    rw [haddressed.id, hconnections]
    exact h.connected q hq
  untouched := by
    intro id hnone
    rw [hconnections] at hnone
    exact h.untouched id hnone
  posted := by
    intro q' hq'
    obtain ⟨q, hq, haddressed⟩ := hpeers q' hq'
    rw [haddressed.id, hconnections]
    exact (h.posted q hq).addressed haddressed

theorem silent (h : Posted log c) (hc : c.Silent c') : Posted log c' :=
  h.addressed hc.connections hc.ids fun q' hq' =>
    let ⟨q, hq, hsilent⟩ := hc.peers q' hq'
    ⟨q, hq, hsilent.addressed⟩

/-- Something is said to the live workers. -/
theorem announced (h : Posted log c) (samples : Peer → List Bool) (m : CoordinatorMessage)
    (hconnections : ∀ id, connections id c'.history = connections id c.history)
    (hpeers : c'.peers =
      c.peers.map fun q => if q.dead then q else { q with samples := samples q }.queue m) :
    Posted log c' := by
  refine h.addressed hconnections ?_ ?_
  · rw [hpeers, map_id_map fun q => (q.addressed_queue (samples q) m).id]
  · intro q' hq'
    rw [hpeers] at hq'
    obtain ⟨q, hq, rfl⟩ := List.mem_map.1 hq'
    exact ⟨q, hq, q.addressed_queue (samples q) m⟩

/-- Nothing happens to the workers. -/
theorem unannounced (h : Posted log c)
    (hconnections : ∀ id, connections id c'.history = connections id c.history)
    (hpeers : c'.peers = c.peers) : Posted log c' :=
  h.addressed hconnections (by rw [hpeers]) fun q hq =>
    ⟨q, hpeers ▸ hq, (Peer.Silent.refl q).addressed⟩

theorem start (h : Posted log c) (p : PropertyId) : Posted log (c.start p) :=
  h.announced (fun _ => []) _ (fun _ => connections_cons Happening.noConfusion _) rfl

theorem stop (h : Posted log c) : Posted log c.stop :=
  h.announced (fun q => q.samples) _ (fun _ => rfl) rfl

theorem startLocal (h : Posted log c) (p : PropertyId) : Posted log (c.startLocal p) :=
  h.unannounced (fun _ => connections_cons Happening.noConfusion _) rfl

theorem stopLocal (h : Posted log c) : Posted log c.stopLocal :=
  h.unannounced (fun _ => connections_cons Happening.noConfusion _) rfl

theorem turn (h : Posted log c) : c.turn.LeadsTo (Posted log) fun _ _ => Posted log :=
  (Coordinator.Silent.turn c).imp (fun _ hc => h.silent hc) fun _ _ _ hc => h.silent hc

theorem setOrigin (h : Posted log c) (values : Valuation) : Posted log (c.setOrigin values) :=
  { h with }

/-! ### What the sockets do -/

/-- A worker connects.  What is written to it then waits to be taken. -/
theorem register (h : Posted log c) : Posted log c.register := by
  refine ⟨nodup_ids_register h.distinct, ?_, ?_, ?_⟩
  · intro q hq
    rcases mem_peers_register.1 hq with ⟨hq, hid⟩ | rfl
    · rw [connections_register_of_ne hid]
      exact h.connected q hq
    · rw [id_newPeer, connections_register]
      exact Nat.succ_pos _
  · intro id hnone
    exact h.untouched id (Nat.eq_zero_of_le_zero (hnone ▸ connections_le_register c id))
  · intro q hq
    rcases mem_peers_register.1 hq with ⟨hq, hid⟩ | rfl
    · rw [connections_register_of_ne hid]
      exact h.posted q hq
    · have hwritten : c.newPeer.written = c.newPeer.outgoing := by
        unfold Coordinator.newPeer
        cases c.remoteProperty <;> rfl
      rw [id_newPeer, connections_register]
      refine ⟨takenBy c.nextId log, by rw [hwritten], fun hone => ?_⟩
      exact h.untouched c.nextId (Nat.succ.inj hone)

/-- **A socket takes the first bytes of what it is offered.** -/
theorem take (h : Posted log c) {p : Peer} (hp : p ∈ c.peers) {bytes : Bytes} {f : Peer → Peer}
    (hid : ∀ q : Peer, (f q).id = q.id) (hwritten : (f p).written = p.written)
    (hbytes : bytes ++ (f p).outgoing = p.outgoing) :
    Posted ((p.id, bytes) :: log) (c.modifyPeer p.id f) := by
  have hsame (q : Peer) : (if q.id = p.id then f q else q).id = q.id := by
    split_ifs
    exacts [hid q, rfl]
  refine ⟨(map_id_map hsame c.peers).symm ▸ h.distinct, ?_, ?_, ?_⟩
  · intro q' hq'
    obtain ⟨q, hq, rfl⟩ := List.mem_map.1 hq'
    rw [hsame]
    exact h.connected q hq
  · intro id hnone
    have hne : p.id ≠ id := by
      rintro rfl
      exact (h.connected p hp).ne' hnone
    rw [takenBy, if_neg hne]
    exact h.untouched id hnone
  · intro q' hq'
    obtain ⟨q, hq, rfl⟩ := List.mem_map.1 hq'
    rw [hsame]
    by_cases hqp : q.id = p.id
    · obtain rfl : q = p := List.inj_on_of_nodup_map h.distinct hq hp hqp
      obtain ⟨earlier, heq, hfirst⟩ := h.posted q hq
      rw [if_pos rfl]
      refine ⟨earlier, ?_, hfirst⟩
      rw [takenBy, if_pos rfl, hwritten, List.append_assoc, hbytes, heq]
    · rw [if_neg hqp, takenBy, if_neg (Ne.symm hqp)]
      exact h.posted q hq

variable {N : Type} {net : Network N} {s : Station (N × Takings)}

theorem flush (h : Posted s.network.2 s.coordinator) (id : ClientId) :
    Posted (s.flush net.recording id).network.2 (s.flush net.recording id).coordinator := by
  unfold Station.flush
  split
  · exact h
  · rename_i p hpeer
    obtain ⟨hp, rfl⟩ := mem_of_peer?_eq_some hpeer
    split_ifs
    · exact h
    · rcases hwrite : net.write p.id p.outgoing s.network.1 with ⟨count | _, network⟩
      · rw [Network.recording_write hwrite]
        exact h.take hp (fun _ => rfl) rfl (List.take_append_drop count p.outgoing)
      · rw [Network.recording_write hwrite]
        exact h.take hp (fun _ => rfl) rfl (List.nil_append _)

/-- Whatever the sockets do, what they have taken is what has been written. -/
theorem lasting (net : Network N) :
    Lasting net.recording fun s => Posted s.network.2 s.coordinator where
  polled _ h := h
  register _ h := h.register
  skipNumber h := { h with }
  receive id bytes ended h := h.silent (.receive _ id bytes ended)
  markDead id h := h.silent (.markDead _ id)
  flush id h := h.flush id

/-! ### Whole calls -/

theorem station_start (h : Posted s.network.2 s.coordinator) (p : PropertyId) :
    Posted (s.start net.recording p).network.2 (s.start net.recording p).coordinator :=
  (lasting net).flushAll _ (h.start p)

theorem beginRun (h : Posted s.network.2 s.coordinator) (p : PropertyId) (values : Valuation) :
    Posted (s.beginRun net.recording p values).network.2
      (s.beginRun net.recording p values).coordinator := by
  have hpinned : Posted s.network.2 (s.coordinator.pinOrigin values) := h.setOrigin _
  rw [Station.beginRun]
  split_ifs
  · exact station_start (s := { s with coordinator := _ }) hpinned p
  · exact hpinned.startLocal p

theorem station_stop (h : Posted s.network.2 s.coordinator) :
    Posted (s.stop net.recording).network.2 (s.stop net.recording).coordinator := by
  unfold Station.stop
  split
  · exact h
  · split_ifs
    · exact h.stopLocal
    · have hflushed := (lasting net).flushAll (s := { s with coordinator := s.coordinator.stop })
        (s.coordinator.stop.live.map (·.id)) h.stop
      exact hflushed.silent (.forgetDead _)

theorem nextSample (net : Network N) (h : Posted s.network.2 s.coordinator) (fuel : ℕ) :
    (s.nextSample net.recording fuel).Leaves (fun s => Posted s.network.2 s.coordinator)
      fun _ _ s => Posted s.network.2 s.coordinator := by
  have hlasting := lasting net
  unfold Station.nextSample
  split_ifs
  · exact h
  · exact hlasting.serve (fun s hs => turn hs) fuel (hlasting.poll none h)

end Posted

section

variable {N : Type} {net : Network N} {initial : N} {job : Option Job} {ws : List Switch}

/-- What the sockets have taken and what waits is what has been written, at all times. -/
theorem ConductedFrom.posted {s : Station (N × Takings)}
    (h : ConductedFrom net.recording (initial, []) job ws s) :
    Posted s.network.2 s.coordinator := by
  induction h with
  | create settings => exact .create settings
  | setOrigin values _ ih => exact ih.setOrigin values
  | poll waitingFor _ ih => exact (Posted.lasting net).poll waitingFor ih
  | waitForClients count fuel _ ih => exact (Posted.lasting net).waitForClients count fuel ih
  | start p _ ih => exact ih.station_start p
  | beginRun p values hjob _ ih => exact ih.beginRun p values
  | simulate fuel _ hnext ih =>
    have hoffer := ih.nextSample net fuel
    rwa [hnext] at hoffer
  | deliver fuel _ hnext ih =>
    have hoffer := ih.nextSample net fuel
    rwa [hnext] at hoffer
  | stop _ ih => exact ih.station_stop

/-- **What the socket of a worker has taken, followed by what waits, are the encodings of what has been
queued to the worker.**  So what counts as sent is what the socket has taken.  The output of earlier
workers with the same number comes before; the first one has none before it. -/
theorem ConductedFrom.taken {s : Station N} (h : ConductedFrom net initial job ws s) :
    ∃ log, ConductedFrom net.recording (initial, []) job ws ⟨s.coordinator, s.network, log⟩ ∧
      ∀ q ∈ s.coordinator.peers, ∃ earlier,
        takenBy q.id log ++ q.outgoing = earlier ++ q.queued.reverse.flatMap encode ∧
          takenBy q.id log = earlier ++ q.sent ∧
          (connections q.id s.coordinator.history = 1 → earlier = []) := by
  obtain ⟨s', hs', rfl⟩ := h.exists_recording
  refine ⟨s'.network.2, hs', fun q hq => ?_⟩
  obtain ⟨earlier, heq, hfirst⟩ := hs'.posted.posted q hq
  refine ⟨earlier, heq, ?_, hfirst⟩
  rw [← (hs'.informed.briefed q hq).sent_append_outgoing, ← List.append_assoc] at heq
  exact List.append_cancel_right heq

end

end SimCheck
