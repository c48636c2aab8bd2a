import Mathlib.Logic.Function.Iterate
import SimCheck.Proofs.Memo.Reverify
import SimCheck.Proofs.Schedule.Fairness
import SimCheck.Proofs.Source.Simulation

/-!
# Coordinators on their own

A coordinator without workers simulates every path itself, and so does one whose runs begin away from
the values that its workers simulate from.  Its verifications are then those without a coordinator, and
its workers notice nothing of runs away from them.

* `SampleSource.Passes P first`: the states of a source in the course of verifications;
* `SampleSource.simulates_of_passes`: a source that has every observation simulated once does nothing
  else;
* `Station.Solitary`: nobody has connected and nobody will, whatever is called; `Lonely.of_passes`: then
  nobody is known or scheduled;
* `Station.Away`: runs begin away from the origin; `Away.of_passes`: then they touch nothing;
* `Station.verify_as_simulating`: either way verifications are those without a coordinator.
-/

namespace SimCheck

open Wire (Bytes)

/-! ### The course of verifications -/

section Sources

variable {R S : Type}

/-- The request can be answered such that the source is in this state afterwards. -/
inductive Draw.LeadsTo : Draw S → S → Prop
  | answer (b : Bool) (source : S) : LeadsTo (.answer b source) source
  | simulate {next : Bool → Draw S} {source : S} (b : Bool) (h : (next b).LeadsTo source) :
      LeadsTo (.simulate next) source

theorem Draw.LeadsTo.eq_of_simulate {next after : S}
    (h : (Draw.simulate fun b => .answer b next).LeadsTo after) : after = next := by
  cases h with
  | simulate b h =>
    cases h
    rfl

/-- The states of a source in the course of verifications, between runs and within a run, when runs begin
at states with `P`. -/
inductive SampleSource.Passes (src : SampleSource R S) (P : State R → Prop) (first : S) :
    (running : Bool) → S → Prop
  | first : src.Passes P first false first
  | beginRun {source : S} (id : PropertyId) {s : State R} (hs : P s)
      (h : src.Passes P first false source) : src.Passes P first true (src.beginRun id s source)
  | next {source after : S} (h : src.Passes P first true source)
      (hnext : (src.next source).LeadsTo after) : src.Passes P first true after
  | endRun {source : S} (id : PropertyId) (h : src.Passes P first true source) :
      src.Passes P first false (src.endRun id source)

variable {src : SampleSource R S} {P : State R → Prop} {first : S}

/-- **A source that has each observation simulated once answers as the one that does nothing else.** -/
theorem SampleSource.simulates_of_passes
    (hnext : ∀ source, src.Passes P first true source →
      ∃ after, src.next source = .simulate fun b => .answer b after) :
    src.Simulates (.simulating R) P (fun source _ => src.Passes P first false source)
      fun source _ => src.Passes P first true source where
  beginRun id _ _ _ hs h := .beginRun id hs h
  next {source _} h := by
    obtain ⟨after, hsimulate⟩ := hnext source h
    have hafter : src.Passes P first true after :=
      .next h (hsimulate ▸ .simulate true (.answer true after))
    rw [hsimulate]
    exact .simulate fun b => .answer b hafter
  endRun id _ _ h := .endRun id h

end Sources

/-! ### Without workers -/

/-- However often it is polled, no worker is found that waits to be admitted. -/
def Network.Deserted {N : Type} (net : Network N) (network : N) : Prop :=
  ∀ (k : ℕ) (found : List Readiness) (watched : Bool),
    (net.poll none ((fun n => (net.poll none n).2)^[k] network)).1 = .ready found →
      .connection watched ∉ found

theorem Network.Deserted.poll {N : Type} {net : Network N} {network : N} (h : net.Deserted network) :
    net.Deserted (net.poll none network).2 :=
  fun k => h (k + 1)

/-- Nobody is known or scheduled but the coordinator itself. -/
structure Coordinator.Lonely (c : Coordinator) : Prop where
  peers : c.peers = []
  schedule : ∀ x ∈ c.schedule, x = .local

/-- A coordinator that no worker has connected to is on its own. -/
theorem Coordinator.Arises.lonely {n : ℕ} {c : Coordinator} (h : c.Arises n)
    (hnever : ∀ id, .connected id ∉ c.history) : c.Lonely := by
  have hadmitted : c.roster.admitted = [] := by
    refine List.filterMap_eq_nil_iff.2 fun e he => ?_
    cases e with
    | connected id => exact absurd he (hnever id)
    | began p => rfl
    | ended => rfl
    | received id bytes => rfl
    | delivered id value => rfl
  -- Who is known has been admitted, and who is scheduled is known.
  have hsound := h.reached.sound (hadmitted ▸ List.nodup_nil)
  have hids : c.roster.ids = [] :=
    List.eq_nil_iff_forall_not_mem.2 fun id hid => by
      have hmem := hsound.admitted id hid
      rw [hadmitted] at hmem
      cases hmem
  refine ⟨List.map_eq_nil_iff.1 hids, fun x hx => ?_⟩
  cases x with
  | «local» => rfl
  | remote id =>
    have hcount := hsound.workers id
    rw [hids, if_neg List.not_mem_nil] at hcount
    exact absurd hx (List.count_eq_zero.1 hcount)

namespace Coordinator.Lonely

variable {c : Coordinator}

theorem peer?_eq_none (h : c.Lonely) (id : ClientId) : c.peer? id = none := by
  unfold peer?
  rw [h.peers, List.find?_nil]

theorem rotate (h : c.Lonely) : c.rotate.Lonely := by
  cases hschedule : c.schedule with
  | nil =>
    unfold Coordinator.rotate
    rwa [hschedule]
  | cons x xs =>
    have hall := h.schedule
    unfold Coordinator.rotate
    rw [hschedule] at hall ⊢
    exact ⟨h.peers, fun y hy => hall y (by simpa [or_comm] using hy)⟩

/-- The coordinator simulates, whether or not it is scheduled. -/
theorem turn (h : c.Lonely) : ∃ next, c.turn = .simulate next ∧ next.Lonely := by
  cases hschedule : c.schedule with
  | nil => exact ⟨c, turn_of_nil hschedule, h⟩
  | cons x xs =>
    obtain rfl : x = .local := h.schedule x (hschedule ▸ List.mem_cons_self)
    exact ⟨c.rotate, turn_of_local hschedule, h.rotate⟩

/-- Bytes come from nobody. -/
theorem receive_eq (h : c.Lonely) (id : ClientId) (bytes : Bytes) (ended : Bool) :
    c.receive id bytes ended = c := by
  have hlive : ¬c.isLive id := by
    unfold isLive live
    rw [h.peers]
    exact Bool.false_ne_true
  rw [Coordinator.receive, if_neg hlive]

theorem live_eq_nil (h : c.Lonely) : c.live = [] := by
  unfold live
  rw [h.peers, List.filter_nil]

theorem start (h : c.Lonely) (p : PropertyId) : (c.start p).Lonely :=
  ⟨congrArg (List.map _) h.peers, h.schedule⟩

theorem stop (h : c.Lonely) : c.stop.Lonely := ⟨congrArg (List.map _) h.peers, h.schedule⟩

theorem forgetDead (h : c.Lonely) : c.forgetDead.Lonely := by
  unfold Coordinator.forgetDead
  rw [h.peers]
  exact ⟨rfl, h.schedule⟩

end Coordinator.Lonely

/-! ### Stations without workers -/

namespace Station

variable {N : Type} {net : Network N} {s : Station N}

/-- No worker is known, and none will connect. -/
structure Lonely (net : Network N) (s : Station N) : Prop where
  coordinator : s.coordinator.Lonely
  deserted : net.Deserted s.network

/-- Calls in any order have led here.  No worker has connected meanwhile, and none will. -/
structure Solitary (net : Network N) (s : Station N) : Prop where
  reached : ∃ left, Visited net left s
  never : ∀ id, .connected id ∉ s.coordinator.history
  deserted : net.Deserted s.network

theorem Solitary.lonely (h : s.Solitary net) : s.Lonely net := by
  obtain ⟨left, hvisited⟩ := h.reached
  obtain ⟨n, harises⟩ := hvisited.arises
  exact ⟨harises.lonely h.never, h.deserted⟩

/-- A simulation that is offered is the only one. -/
theorem source_next (R : Type) {fuel : ℕ} {next : Station N} (h : s.nextSample net fuel = .simulate next) :
    (source net R fuel).next s = .simulate fun b => .answer b next := by
  unfold source
  dsimp only
  rw [h]

namespace Lonely

theorem of_coordinator (h : s.Lonely net) {c : Coordinator} (hc : c.Lonely) :
    Lonely net { s with coordinator := c } :=
  ⟨hc, h.deserted⟩

/-- Input that is found is from nobody. -/
theorem handle_eq {t : Station N} (h : t.coordinator.Lonely) {r : Readiness}
    (hr : ∀ watched, r ≠ .connection watched) : t.handle net r = t := by
  cases r with
  | connection watched => exact absurd rfl (hr watched)
  | input id bytes ended =>
    rw [handle, h.receive_eq, flushLive, h.peer?_eq_none]

theorem poll (h : s.Lonely net) : (s.poll net none).2.Lonely net := by
  have hfound := h.deserted 0
  have hdeserted := h.deserted.poll
  unfold Station.poll
  rcases hpolled : net.poll none s.network with ⟨found | _, network⟩
  all_goals rw [hpolled] at hdeserted
  · -- The coordinator stays as it is, so what is found later is from nobody as well.
    have hsame := List.foldlRecOn found (Station.handle net) (b := { s with network })
      (motive := fun t : Station N => t = { s with network }) rfl fun t ht r hr => by
        rw [ht]
        refine handle_eq (t := { s with network }) h.coordinator fun watched hconnection => ?_
        exact hfound found watched (congrArg Prod.fst hpolled) (hconnection ▸ hr)
    show Lonely net (List.foldl (Station.handle net) _ found)
    rw [hsame]
    exact ⟨h.coordinator, hdeserted⟩
  · exact ⟨h.coordinator, hdeserted⟩

/-- **A coordinator on its own simulates.** -/
theorem nextSample (h : s.Lonely net) {fuel : ℕ} (hfuel : 0 < fuel) :
    ∃ next, s.nextSample net fuel = .simulate next ∧ next.Lonely net := by
  rw [Station.nextSample]
  split_ifs
  · exact ⟨s, rfl, h⟩
  · obtain ⟨fuel, rfl⟩ := Nat.exists_eq_add_one_of_ne_zero (Nat.ne_of_gt hfuel)
    have hpolled := h.poll
    obtain ⟨next, hturn, hnext⟩ := hpolled.coordinator.turn
    rw [serve, hturn]
    exact ⟨_, rfl, hpolled.of_coordinator hnext⟩

theorem start (h : s.Lonely net) (p : PropertyId) : (s.start net p).Lonely net := by
  have hstart := h.coordinator.start p
  rw [Station.start, hstart.live_eq_nil]
  exact h.of_coordinator hstart

theorem beginRun (h : s.Lonely net) (p : PropertyId) (values : Valuation) :
    (s.beginRun net p values).Lonely net := by
  have hpinned : (s.coordinator.pinOrigin values).Lonely := { h.coordinator with }
  rw [Station.beginRun]
  split_ifs
  · exact (h.of_coordinator hpinned).start p
  · exact h.of_coordinator { hpinned with }

theorem stop (h : s.Lonely net) : (s.stop net).Lonely net := by
  rw [Station.stop]
  cases s.coordinator.active with
  | none => exact h
  | some p =>
    dsimp only
    split_ifs
    · exact h.of_coordinator { h.coordinator with }
    · have hstop := h.coordinator.stop
      rw [hstop.live_eq_nil]
      exact h.of_coordinator hstop.forgetDead

/-- **No verification brings workers.** -/
theorem of_passes {R : Type} {P : State R → Prop} {first : Station N} {fuel : ℕ} (hfuel : 0 < fuel)
    (hfirst : first.Lonely net) {running : Bool}
    (h : (source net R fuel).Passes P first running s) : s.Lonely net := by
  induction h with
  | first => exact hfirst
  | beginRun id _ _ ih => exact ih.beginRun id _
  | @next before after _ hnext ih =>
    obtain ⟨next, hsimulate, hlonely⟩ := ih.nextSample hfuel
    rw [source_next R hsimulate] at hnext
    exact hnext.eq_of_simulate ▸ hlonely
  | endRun id _ ih => exact ih.stop

end Lonely

/-! ### Runs away from the workers -/

/-- The origin is known, and runs that begin at states with `P` are away from it. -/
def Away {R : Type} (P : State R → Prop) (s : Station N) : Prop :=
  ∃ origin, s.coordinator.origin = some origin ∧ ∀ state, P state → state.values ≠ origin

/-- Nothing has been read from a worker, queued for it or written to it, and the same producers take
turns. -/
structure Untouched (before after : Station N) : Prop where
  network : after.network = before.network
  peers : after.coordinator.peers = before.coordinator.peers
  nextId : after.coordinator.nextId = before.coordinator.nextId
  schedule : after.coordinator.schedule = before.coordinator.schedule
  origin : after.coordinator.origin = before.coordinator.origin

theorem beginRun_of_ne {origin values : Valuation} (horigin : s.coordinator.origin = some origin)
    (hne : values ≠ origin) (p : PropertyId) :
    s.beginRun net p values = { s with coordinator := s.coordinator.startLocal p } := by
  have hpinned : s.coordinator.pinOrigin values = s.coordinator := by
    rw [Coordinator.pinOrigin, Coordinator.setOrigin, horigin, Option.getD_some, ← horigin]
  have helsewhere : s.coordinator.origin ≠ some values := fun h =>
    hne (Option.some.inj (h.symm.trans horigin))
  rw [beginRun, hpinned, if_neg helsewhere]

theorem stop_of_localOnly (hlocal : s.coordinator.localOnly = true)
    (hactive : s.coordinator.active.isSome) :
    s.stop net = { s with coordinator := s.coordinator.stopLocal } := by
  obtain ⟨p, hp⟩ := Option.isSome_iff_exists.1 hactive
  rw [stop, hp]
  exact if_pos hlocal

theorem nextSample_of_localOnly {fuel : ℕ} (hlocal : s.coordinator.localOnly = true) :
    s.nextSample net fuel = .simulate s := by
  rw [nextSample, if_pos hlocal]

/-- **A run away from the workers touches nothing.** -/
theorem Away.of_passes {R : Type} {P : State R → Prop} {first : Station N} {fuel : ℕ}
    (haway : first.Away P) {running : Bool} (h : (source net R fuel).Passes P first running s) :
    Untouched first s ∧
      (running = true → s.coordinator.localOnly = true ∧ s.coordinator.active.isSome) := by
  induction h with
  | first => exact ⟨⟨rfl, rfl, rfl, rfl, rfl⟩, fun h => nomatch h⟩
  | @beginRun before id state hstate _ ih =>
    obtain ⟨origin, horigin, hne⟩ := haway
    obtain ⟨hsame, -⟩ := ih
    -- The origin is still the first one, so this run is away from it as well.
    have hbegin : (source net R fuel).beginRun id state before
        = { before with coordinator := before.coordinator.startLocal id } :=
      beginRun_of_ne (hsame.origin.trans horigin) (hne state hstate) id
    rw [hbegin]
    exact ⟨{ hsame with }, fun _ => ⟨rfl, rfl⟩⟩
  | @next before after _ hnext ih =>
    obtain ⟨hsame, hrunning⟩ := ih
    rw [source_next R (nextSample_of_localOnly (hrunning rfl).1)] at hnext
    obtain rfl := hnext.eq_of_simulate
    exact ⟨hsame, hrunning⟩
  | @endRun before id _ ih =>
    obtain ⟨hsame, hrunning⟩ := ih
    obtain ⟨hlocal, hactive⟩ := hrunning rfl
    have hend : (source net R fuel).endRun id before
        = { before with coordinator := before.coordinator.stopLocal } :=
      stop_of_localOnly hlocal hactive
    rw [hend]
    exact ⟨{ hsame with }, fun h => nomatch h⟩

/-! ### Verifications -/

/-- **A coordinator on its own is a simulator.**  Suppose that no worker connects whatever is called, or
that runs begin away from the origin.  Then each request for an observation has one path simulated and is
answered with its outcome, so that verifications end as they do without a coordinator, however often they
are repeated: with the same verdict, statistics, generator, cache and parameters, or for the same reason
without one.  Runs away from the origin touch neither the workers nor the schedule. -/
theorem verify_as_simulating {R : Type} [Scalar R] [Distributions R] {P : State R → Prop}
    {first : Station N} {fuel : ℕ} (hfuel : 0 < fuel) (halone : first.Solitary net ∨ first.Away P) :
    (∀ t, t.Solitary net ∨ (source net R fuel).Passes P first true t →
        ∃ after, (source net R fuel).next t = .simulate fun b => .answer b after) ∧
      (∀ {G : Type} (sim : Simulator R G) (p : Property R) (s : State R), P s →
        Matches (fun t _ => (source net R fuel).Passes P first false t)
          (fun t _ => (source net R fuel).Passes P first false t)
          (Session.verify sim (source net R fuel) p s : Run R (Session R G (Station N)) Bool)
          (Session.verify sim (.simulating R) p s)) ∧
      (first.Away P → ∀ running t, (source net R fuel).Passes P first running t → Untouched first t) := by
  have hlonely {t : Station N} (ht : t.Lonely net) :
      ∃ after, (source net R fuel).next t = .simulate fun b => .answer b after := by
    obtain ⟨after, hsimulate, -⟩ := ht.nextSample hfuel
    exact ⟨after, source_next R hsimulate⟩
  have hnext {t : Station N} (ht : (source net R fuel).Passes P first true t) :
      ∃ after, (source net R fuel).next t = .simulate fun b => .answer b after := by
    rcases halone with hsolitary | haway
    · exact hlonely (.of_passes hfuel hsolitary.lonely ht)
    · exact ⟨t, source_next R (nextSample_of_localOnly ((haway.of_passes ht).2 rfl).1)⟩
  refine ⟨fun t ht => ?_, fun sim p s hs => ?_, fun haway running t ht => (haway.of_passes ht).1⟩
  · rcases ht with hsolitary | hpasses
    · exact hlonely hsolitary.lonely
    · exact hnext hpasses
  · exact (SampleSource.simulates_of_passes fun t ht => hnext ht).verify hs sim p

end Station

/-! ### A worker that is left alone -/

namespace Excursion

/-- Nobody has connected. -/
def vacant : Station Unit := ⟨.create ⟨"127.0.0.1:0", false, 1000, 4, 64⟩, ()⟩

/-- A worker has sent an observation of paths that begin elsewhere. -/
def attended : Station Unit := ⟨Relay.coordinator.setOrigin [7], ()⟩

theorem vacant_solitary : vacant.Solitary Relay.network where
  reached := ⟨_, .create _ _⟩
  never _ h := nomatch h
  deserted _ _ _ h := by
    cases h
    exact List.not_mem_nil

/-- Both coordinators verify what is verified without one, and the worker's observation is kept. -/
theorem verify_as_simulating_excursion :
    let _ := Twice.distributions
    ∃ (v : Verifier Float ℕ) (t t' : Station Unit), v.generator = 2 ∧
      Session.verify Twice.counting (.simulating Float) Twice.property ⟨[0], 0⟩ Twice.session
        = .ok (true, ⟨v, ()⟩) ∧
      Session.verify Twice.counting (Station.source Relay.network Float 1) Twice.property ⟨[0], 0⟩
        ⟨Twice.session.verifier, vacant⟩ = .ok (true, ⟨v, t⟩) ∧
      Session.verify Twice.counting (Station.source Relay.network Float 1) Twice.property ⟨[0], 0⟩
        ⟨Twice.session.verifier, attended⟩ = .ok (true, ⟨v, t'⟩) ∧
      Station.Untouched attended t' := by
  intro _
  let P : State Float → Prop := fun s => s.values = [0]
  obtain ⟨σ, hlocal, hgenerator⟩ := Twice.verify_first
  have haway : attended.Away P := ⟨[7], rfl, fun s hs => by rw [hs]; decide⟩
  obtain ⟨-, hvacant, -⟩ := @Station.verify_as_simulating Unit Relay.network Float _ _ P vacant 1
    Nat.one_pos (.inl vacant_solitary)
  obtain ⟨-, hattended, huntouched⟩ := @Station.verify_as_simulating Unit Relay.network Float _ _ P
    attended 1 Nat.one_pos (.inr haway)
  obtain ⟨t, ht, -⟩ := (hvacant Twice.counting Twice.property ⟨[0], 0⟩ rfl).exists_of_ok .first hlocal
  obtain ⟨t', ht', hpasses⟩ :=
    (hattended Twice.counting Twice.property ⟨[0], 0⟩ rfl).exists_of_ok .first hlocal
  exact ⟨σ.verifier, t, t', hgenerator, hlocal, ht, ht', huntouched haway false t' hpasses⟩

end Excursion

end SimCheck
