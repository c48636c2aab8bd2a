import SimCheck.Proofs.Agreement.Pair

/-!
# What a worker samples

A worker calls its sampler for the property that it has been asked for last, unless the sampler has
declined since.  It sends an observation before it does anything else, so that the messages it sends are
its observations, one for each and in the same order; only the last one can fail to be sent.

* `Surroundings.monitored`: surroundings that keep what they are asked and what is written to them;
* `Service.Orderly`: the histories of a worker that samples as it should;
* `Service.Interrupted`: such a history, or one that ends with an observation that was not sent;
* `Service.Due`, `Service.Interrupted.due`: what comes before an action of such a history;
* `Service.Diligent`: a worker with an orderly history, which its surroundings confirm, that samples
  what it has been asked for;
* `Service.round_diligent`: a round; `Service.ends_rounds`: what every round keeps is kept;
* `Service.samples_what_it_is_asked_for`: whole services;
* `Errand`: a worker that samples one run and declines another.
-/

namespace SimCheck

open Wire (Bytes CoordinatorMessage WorkerMessage messages requested)

variable {L : Type}

/-! ### What the surroundings notice -/

/-- What a worker has had of its surroundings. -/
inductive Exchange
  /-- The sampler has been called. -/
  | asked (property : PropertyId) (answer : Option Bool)
  /-- Bytes have been written, and nothing has failed. -/
  | written (bytes : Bytes)
  deriving DecidableEq

namespace Surroundings

/-- The same surroundings, which keep what they have been asked and what has been written to them, the
latest first. -/
def monitored (env : Surroundings L) : Surroundings (L × List Exchange) where
  read wait l :=
    let r := env.read wait l.1
    (r.1, r.2, l.2)
  write bytes l :=
    let r := env.write bytes l.1
    (r.1, r.2, if r.1.isOk then .written bytes :: l.2 else l.2)
  sample property l :=
    let r := env.sample property l.1
    (r.1, r.2, .asked property r.1 :: l.2)

/-- What is kept is not looked at. -/
theorem monitored_extends (env : Surroundings L) :
    env.monitored.recording.Extends (·.1.1) env :=
  ⟨fun _ _ => rfl, fun _ _ => rfl, fun _ _ => rfl⟩

variable {env : Surroundings L} {l : L × List Exchange} {next : L}

theorem monitored_read {wait : Bool} {outcome : Read} (h : env.read wait l.1 = (outcome, next)) :
    env.monitored.read wait l = (outcome, next, l.2) := by
  show ((env.read wait l.1).1, (env.read wait l.1).2, l.2) = _
  rw [h]

theorem monitored_write {bytes : Bytes} {outcome : Except Bool Unit}
    (h : env.write bytes l.1 = (outcome, next)) :
    env.monitored.write bytes l
      = (outcome, next, if outcome.isOk then .written bytes :: l.2 else l.2) := by
  show ((env.write bytes l.1).1, (env.write bytes l.1).2, _) = _
  rw [h]

theorem monitored_sample {p : PropertyId} {answer : Option Bool}
    (h : env.sample p l.1 = (answer, next)) :
    env.monitored.sample p l = (answer, next, .asked p answer :: l.2) := by
  show ((env.sample p l.1).1, (env.sample p l.1).2, _) = _
  rw [h]

end Surroundings

/-! ### Histories -/

deriving instance DecidableEq for WorkerAction

namespace WorkerAction

/-- The message that is sent. -/
def sent? : WorkerAction → Option WorkerMessage
  | sent m => some m
  | applied _ | asked _ _ => none

/-- What the surroundings notice of an action. -/
def exchange? : WorkerAction → Option Exchange
  | asked p answer => some (.asked p answer)
  | sent m => some (.written (Wire.encode m))
  | applied _ => none

/-- The observation that is made. -/
def observed? : WorkerAction → Option (PropertyId × Bool)
  | asked p (some holds) => some (p, holds)
  | asked _ none | applied _ | sent _ => none

end WorkerAction

namespace Service

/-- The messages that have been sent, the first one first. -/
def sent (σ : Service L) : List WorkerMessage := (σ.history.filterMap (·.sent?)).reverse

/-- The observations that the sampler has made, the first one first. -/
def observed (σ : Service L) : List (PropertyId × Bool) :=
  (σ.history.filterMap (·.observed?)).reverse

/-- The histories, the latest action first, in which the sampler is called for the property that is
sampled, and each observation is sent at once. -/
inductive Orderly : List WorkerAction → Prop
  | nil : Orderly []
  | applied (m : CoordinatorMessage) {h : List WorkerAction} (hh : Orderly h) :
      Orderly (.applied m :: h)
  | declined {p : PropertyId} {h : List WorkerAction} (hh : Orderly h) (hp : activeAfter h = some p) :
      Orderly (.asked p none :: h)
  | observed {p : PropertyId} (holds : Bool) {h : List WorkerAction} (hh : Orderly h)
      (hp : activeAfter h = some p) :
      Orderly (.sent (.observation p holds) :: .asked p (some holds) :: h)

/-- An orderly history, to which an observation may have been added that could not be sent. -/
def Interrupted (h : List WorkerAction) : Prop :=
  Orderly h ∨ ∃ p holds before, h = .asked p (some holds) :: before ∧ Orderly before ∧
    activeAfter before = some p

/-- The action is due after those before it. -/
def Due : WorkerAction → List WorkerAction → Prop
  | .applied _, _ => True
  | .asked p _, before => activeAfter before = some p
  | .sent m, before =>
    ∃ p holds earlier, before = .asked p (some holds) :: earlier ∧ m = .observation p holds

section Histories

variable {h before : List WorkerAction} {a : WorkerAction}

/-- The sampler has been called for the property that was sampled then, and what has been sent is the
observation made right before it. -/
theorem Orderly.due (hh : Orderly h) (ha : a :: before <:+ h) : Due a before := by
  induction hh with
  | nil => cases List.suffix_nil.1 ha
  | applied m _ ih =>
    rcases List.suffix_cons_iff.1 ha with heq | ha
    · cases heq
      trivial
    · exact ih ha
  | declined _ hp ih =>
    rcases List.suffix_cons_iff.1 ha with heq | ha
    · cases heq
      exact hp
    · exact ih ha
  | observed holds _ hp ih =>
    rcases List.suffix_cons_iff.1 ha with heq | ha
    · cases heq
      exact ⟨_, _, _, rfl, rfl⟩
    rcases List.suffix_cons_iff.1 ha with heq | ha
    · cases heq
      exact hp
    · exact ih ha

/-- The messages sent are the observations. -/
theorem Orderly.sent_eq (hh : Orderly h) :
    h.filterMap (·.sent?) = (h.filterMap (·.observed?)).map fun o => .observation o.1 o.2 := by
  induction hh with
  | nil => rfl
  | applied m _ ih => exact ih
  | declined _ _ ih => exact ih
  | observed holds _ _ ih => exact congrArg (WorkerMessage.observation _ holds :: ·) ih

namespace Interrupted

theorem due (hh : Interrupted h) (ha : a :: before <:+ h) : Due a before := by
  obtain hh | ⟨p, holds, earlier, rfl, hh, hp⟩ := hh
  · exact hh.due ha
  · rcases List.suffix_cons_iff.1 ha with heq | ha
    · cases heq
      exact hp
    · exact hh.due ha

/-- The messages sent are the observations, but perhaps for the last of them. -/
theorem sent_prefix {σ : Service L} (hh : Interrupted σ.history) :
    σ.sent <+: σ.observed.map (fun o => .observation o.1 o.2) ∧
      σ.observed.length ≤ σ.sent.length + 1 := by
  unfold sent observed
  obtain hh | ⟨p, holds, before, heq, hh, -⟩ := hh
  · rw [hh.sent_eq, List.map_reverse]
    refine ⟨List.prefix_refl _, ?_⟩
    simp
  · have hobserved : σ.history.filterMap (·.observed?)
        = (p, holds) :: before.filterMap (·.observed?) := by rw [heq]; rfl
    have hsent : σ.history.filterMap (·.sent?) = before.filterMap (·.sent?) := by rw [heq]; rfl
    rw [hobserved, hsent, hh.sent_eq, List.reverse_cons, List.map_append, List.map_reverse]
    refine ⟨List.prefix_append _ _, ?_⟩
    simp

end Interrupted

end Histories

/-! ### One operation after the other -/

/-- A worker that has sent its observations at once, as its surroundings confirm, and that samples what
it has been asked for. -/
structure Diligent (σ : Service (L × List Exchange)) : Prop where
  orderly : Orderly σ.history
  active : σ.worker.active = activeAfter σ.history
  confirmed : σ.surroundings.2 = σ.history.filterMap (·.exchange?)

/-- What is known of a worker that has halted. -/
structure Ceased (σ : Service (L × List Exchange)) : Prop where
  interrupted : Interrupted σ.history
  confirmed : σ.surroundings.2 = σ.history.filterMap (·.exchange?)

variable {σ : Service (L × List Exchange)}

theorem Diligent.ceased (h : Diligent σ) : Ceased σ := ⟨.inl h.orderly, h.confirmed⟩

/-- A diligent worker is still diligent when the computation ends, and is known to have been when it
halts. -/
def StaysDiligent {α : Type} (x : Serving (L × List Exchange) α) : Prop :=
  ∀ σ, Diligent σ → Ends x (fun _ => Diligent) (fun _ => Ceased) σ

namespace StaysDiligent

variable {α β : Type}

theorem pure (a : α) : StaysDiligent (L := L) (Pure.pure a) := fun _ h => h

theorem throw (e : ServiceHalt) : StaysDiligent (L := L) (α := α) (MonadExcept.throw e) :=
  fun _ h => h.ceased

theorem bind {x : Serving (L × List Exchange) α} {f : α → Serving (L × List Exchange) β}
    (hx : StaysDiligent x) (hf : ∀ a, StaysDiligent (f a)) : StaysDiligent (x >>= f) := by
  intro σ h
  rw [ends_bind]
  exact (hx σ h).mono (fun a τ hτ => hf a τ hτ) fun _ _ hτ => hτ

/-- The worker is looked at, of which it is known that it is diligent. -/
theorem get_bind {f : Service (L × List Exchange) → Serving (L × List Exchange) α}
    (hf : ∀ σ, Diligent σ → Ends (f σ) (fun _ => Diligent) (fun _ => Ceased) σ) :
    StaysDiligent (get >>= f) :=
  fun σ h => hf σ h

/-- Bytes come or are decoded. -/
theorem setIncoming (f : Bytes → Bytes) :
    StaysDiligent (L := L) (modifyWorker fun w => { w with incoming := f w.incoming }) :=
  fun _ h => ⟨h.orderly, h.active, h.confirmed⟩

end StaysDiligent

section

variable (env : Surroundings L)

theorem fill_diligent (wait : Bool) : StaysDiligent (fill env.monitored wait) := by
  refine .get_bind fun σ h => ?_
  rcases hread : env.read wait σ.surroundings.1 with ⟨outcome, l⟩
  rw [Surroundings.monitored_read hread]
  have hset : Diligent { σ with surroundings := (l, σ.surroundings.2) } :=
    ⟨h.orderly, h.active, h.confirmed⟩
  rw [ends_bind, ends_set]
  cases outcome with
  | received bytes => exact ((StaysDiligent.setIncoming (· ++ bytes)).bind fun _ => .pure true) _ hset
  | nothing => exact hset
  | closed => exact hset
  | failed gone => exact hset.ceased

theorem receive_diligent (fuel : ℕ) : StaysDiligent (receive env.monitored fuel) := by
  induction fuel with
  | zero => exact .throw _
  | succ fuel ih =>
    refine .get_bind fun σ h => ?_
    rcases Wire.decodeNext? (α := CoordinatorMessage) σ.worker.incoming with _ | ⟨_ | m, rest⟩
    · refine StaysDiligent.bind (fill_diligent env true) (fun isOpen => ?_) σ h
      cases isOpen with
      | true => exact ih
      | false => exact .pure none
    · exact StaysDiligent.bind (.setIncoming fun _ => rest) (fun _ => .throw _) σ h
    · exact StaysDiligent.bind (.setIncoming fun _ => rest) (fun _ => .pure (some m)) σ h

theorem apply_diligent (m : CoordinatorMessage) : StaysDiligent (L := L) (Service.apply m) := by
  intro σ h
  unfold Service.apply
  rw [ends_bind, ends_modifyWorker, ends_note]
  refine ⟨.applied m h.orderly, ?_, h.confirmed⟩
  cases m with
  | register id => exact h.active
  | start p => rfl
  | stop => rfl

theorem applyReady_diligent : StaysDiligent (applyReady env.monitored) := by
  have hforM (new : List CoordinatorMessage) :
      StaysDiligent (L := L) (new.forM Service.apply) := by
    induction new with
    | nil => exact .pure _
    | cons m new ih => exact .bind (apply_diligent m) fun _ => ih
  refine .bind (fill_diligent env false) fun isOpen => ?_
  cases isOpen with
  | false => exact .throw _
  | true =>
    refine .get_bind fun σ h => ?_
    rcases Wire.decodeUntilError (α := CoordinatorMessage) σ.worker.incoming with ⟨new, rest, error⟩
    refine StaysDiligent.bind (.setIncoming fun _ => rest) (fun _ => .bind (hforM new) fun _ => ?_) σ h
    cases error with
    | none => exact .pure ()
    | some e => exact .throw _

/-- An observation is made and sent, or the worker stops sampling. -/
theorem sampleOnce_diligent {p : PropertyId} (h : Diligent σ) (hp : σ.worker.active = some p) :
    Ends (sampleOnce env.monitored p) (fun _ => Diligent) (fun _ => Ceased) σ := by
  have hactive : activeAfter σ.history = some p := h.active.symm.trans hp
  rcases hsample : env.sample p σ.surroundings.1 with ⟨answer, l⟩
  unfold sampleOnce
  rw [ends_bind, ends_get, Surroundings.monitored_sample hsample]
  dsimp only
  rw [ends_bind, ends_set, ends_bind, ends_note]
  have hasked : .asked p answer :: σ.surroundings.2
      = (.asked p answer :: σ.history).filterMap (·.exchange?) :=
    congrArg (Exchange.asked p answer :: ·) h.confirmed
  cases answer with
  | none => exact ⟨.declined h.orderly hactive, rfl, hasked⟩
  | some holds =>
    rcases hwrite : env.write (Wire.encode (WorkerMessage.observation p holds)) l with ⟨outcome, l'⟩
    unfold send
    rw [ends_bind, ends_get, Surroundings.monitored_write hwrite]
    dsimp only
    rw [ends_bind, ends_set]
    rcases outcome with gone | ⟨⟩
    -- The observation that could not be sent is the last action: the worker gives up.
    · exact ⟨.inr ⟨p, holds, σ.history, rfl, h.orderly, hactive⟩, hasked⟩
    · exact ⟨.observed holds h.orderly hactive, h.active, congrArg (Exchange.written _ :: ·) hasked⟩

/-- **A round.** -/
theorem round_diligent (fuel : ℕ) : StaysDiligent (round env.monitored fuel) := by
  refine .get_bind fun σ h => ?_
  cases σ.worker.active with
  | none =>
    refine StaysDiligent.bind (receive_diligent env fuel) (fun m => ?_) σ h
    cases m with
    | none => exact .pure false
    | some m => exact .bind (apply_diligent m) fun _ => .pure true
  | some p =>
    refine StaysDiligent.bind (applyReady_diligent env) (fun _ => .get_bind fun τ hτ => ?_) σ h
    split_ifs with hp
    · rw [ends_bind]
      exact (sampleOnce_diligent env hτ hp).mono (fun _ _ hτ' => hτ') fun _ _ hτ' => hτ'
    · exact hτ

/-- A worker that has been registered has done nothing yet. -/
theorem register_diligent (fuel : ℕ) : StaysDiligent (register env.monitored fuel) := by
  refine .bind (receive_diligent env fuel) fun m => ?_
  rcases m with _ | ⟨id | p | _⟩
  · exact .throw _
  · exact fun _ h => ⟨h.orderly, h.active, h.confirmed⟩
  · exact .throw _
  · exact .throw _

end

/-! ### Whole services -/

/-- What comes of a computation comes of it when more is kept. -/
theorem Extends.ends {L' α : Type} {f : L' → L} {x' : Serving L' α} {x : Serving L α}
    (hx : Extends f x' x) {Q : α → Service L → Prop} {E : ServiceHalt → Service L → Prop}
    {σ : Service L'} (h : Ends x Q E (σ.map f)) :
    Ends x' (fun a τ => Q a (τ.map f)) (fun e τ => E e (τ.map f)) σ := by
  unfold Ends at h ⊢
  rw [← hx σ] at h
  rcases hσ : (x' σ : Except ServiceHalt α × Service L') with ⟨_ | _, _⟩ <;> rwa [hσ] at h

section

variable {env : Surroundings L} {σ : Service L}

/-- What every round keeps is kept. -/
theorem ends_rounds {I : Service L → Prop} {E : ServiceHalt → Service L → Prop}
    (hround : ∀ fuel σ, I σ → Ends (round env fuel) (fun _ => I) E σ)
    (hstop : ∀ σ, I σ → E .outOfFuel σ) (fuel : ℕ) (h : I σ) :
    Ends (rounds env fuel) (fun _ => I) E σ := by
  induction fuel generalizing σ with
  | zero => exact hstop σ h
  | succ fuel ih =>
    unfold rounds
    rw [ends_bind]
    refine (hround fuel σ h).mono (fun isOpen τ hτ => ?_) fun _ _ hτ => hτ
    cases isOpen with
    | true => exact ih hτ
    | false => exact hτ

/-- What rounds lead to is what the service leads to. -/
theorem ends_serve {C : Service L → Prop} {fuel : ℕ}
    (h : Ends (rounds env fuel) (fun _ => C) (fun _ => C) σ) :
    Ends (serve env fuel) (fun _ => C) (fun _ => C) σ := by
  unfold Ends at h ⊢
  simp only [serve, tryCatch, tryCatchThe, MonadExceptOf.tryCatch, ExceptT.tryCatch, ExceptT.mk, bind,
    StateT.bind]
  rcases hσ : (rounds env fuel σ : Except ServiceHalt Unit × Service L) with ⟨(e | _) | ⟨⟩, τ⟩ <;>
    rw [hσ] at h
  · cases hgone : e.isDeparture <;> simp only [hgone] <;> exact h
  · exact h
  · exact h

end

/-- A service has applied the first messages that it has been sent. -/
theorem followed_of_serve {env : Surroundings L} {fuel : ℕ} {σ τ : Service (L × Bytes)}
    {outcome : Except ServiceHalt Unit} (h : InStep σ)
    (hserve : serve env.recording fuel σ = (outcome, τ)) : Followed τ := by
  have hheard {σ : Service (L × Bytes)} : InStep σ → Followed σ :=
    fun ⟨id, as, h⟩ => ⟨id, as, h.heard⟩
  have hrounds : Ends (rounds env.recording fuel) (fun _ => InStep) Stopped σ :=
    ends_rounds (fun fuel _ hσ => round_inStep env fuel hσ) (fun _ hσ => hσ) fuel h
  have hends : Ends (serve env.recording fuel) (fun _ => Followed) (fun _ => Followed) σ := by
    refine ends_serve (hrounds.mono (fun _ _ => hheard) fun e τ => ?_)
    rintro ⟨id, as, hstopped⟩
    cases e with
    | outOfFuel => exact ⟨id, as, hstopped.heard⟩
    | error e => exact ⟨id, as, hstopped⟩
  cases outcome with
  | ok => exact hends.of_eq_ok hserve
  | error e => exact hends.of_eq_error hserve

/-- A service sends its observations, one after the other. -/
theorem ceased_of_serve {env : Surroundings L} {fuel : ℕ} {σ τ : Service ((L × List Exchange) × Bytes)}
    {outcome : Except ServiceHalt Unit} (h : Diligent (σ.map Prod.fst))
    (hserve : serve env.monitored.recording fuel σ = (outcome, τ)) : Ceased (τ.map Prod.fst) := by
  have hrounds : Ends (rounds env.monitored fuel) (fun _ => Diligent) (fun _ => Ceased)
      (σ.map Prod.fst) :=
    ends_rounds (fun fuel σ hσ => round_diligent env fuel σ hσ) (fun _ hσ => hσ.ceased) fuel h
  have hends : Ends (serve env.monitored.recording fuel) (fun _ τ => Ceased (τ.map Prod.fst))
      (fun _ τ => Ceased (τ.map Prod.fst)) σ :=
    (Extends.serve env.monitored.recording_extends fuel).ends
      (ends_serve (hrounds.mono (fun _ _ hτ => hτ.ceased) fun _ _ hτ => hτ))
  cases outcome with
  | ok => exact hends.of_eq_ok hserve
  | error e => exact hends.of_eq_error hserve

/-- **A worker samples what it is asked for.**  The service of a worker does not depend on what is kept
of its surroundings.  What a registered worker has applied, when its service ends or is looked at before,
are the first messages after its number in any stream that begins with the bytes it has read, however
these have been cut into reads.  The calls of the sampler and the messages that have been written are
those of its history.  The messages are the observations that the sampler has made, one for each and in
the same order, of which only the last one may be missing; each message tells the observation made right
before it.  Whenever the sampler is called, the property is the one that has been asked for last, which
the sampler has not declined since. -/
theorem samples_what_it_is_asked_for (env : Surroundings L) (l : L) {waits fuel : ℕ}
    {σ₀ σ : Service ((L × List Exchange) × Bytes)} {outcome : Except ServiceHalt Unit}
    (hregister : register env.monitored.recording waits ⟨.create, ((l, []), []), []⟩ = (.ok (), σ₀))
    (hserve : serve env.monitored.recording fuel σ₀ = (outcome, σ)) :
    (register env waits ⟨.create, l, []⟩ = (.ok (), σ₀.map (·.1.1)) ∧
        serve env fuel (σ₀.map (·.1.1)) = (outcome, σ.map (·.1.1))) ∧
      (∃ id, ∀ stream, σ.bytesRead <+: stream → .register id :: σ.applied <+: messages stream) ∧
      σ.surroundings.1.2 = σ.history.filterMap (·.exchange?) ∧
      σ.sent <+: σ.observed.map (fun o => .observation o.1 o.2) ∧
      σ.observed.length ≤ σ.sent.length + 1 ∧
      (∀ m before, .sent m :: before <:+ σ.history →
        ∃ p holds earlier, before = .asked p (some holds) :: earlier ∧ m = .observation p holds) ∧
      ∀ p answer before, .asked p answer :: before <:+ σ.history →
        requested (before.filterMap (·.applied?)) = some p ∧ ¬Declined before := by
  have hstep : InStep σ₀ := (register_inStep env.monitored waits (l, [])).of_eq_ok hregister
  have hnew : Diligent (L := L) ⟨.create, (l, []), []⟩ := ⟨.nil, rfl, rfl⟩
  have hdiligent : Diligent (σ₀.map Prod.fst) :=
    ((Extends.register env.monitored.recording_extends waits).ends
      (σ := ⟨.create, ((l, []), []), []⟩) (register_diligent env waits _ hnew)).of_eq_ok hregister
  have hfollowed : Followed σ := followed_of_serve hstep hserve
  have hceased : Ceased (σ.map Prod.fst) := ceased_of_serve hdiligent hserve
  obtain ⟨id, as, hheard⟩ := hfollowed
  obtain ⟨hinterrupted, hconfirmed⟩ := hceased
  obtain ⟨hfirst, hlength⟩ := hinterrupted.sent_prefix
  refine ⟨⟨?_, ?_⟩, ⟨id, ?_⟩, hconfirmed, hfirst, hlength, fun m before hsent => ?_,
    fun p answer before hasked => ?_⟩
  · exact ((Extends.register env.monitored_extends waits ⟨.create, ((l, []), []), []⟩).symm.trans
      (congrArg _ hregister))
  · exact (Extends.serve env.monitored_extends fuel σ₀).symm.trans (congrArg _ hserve)
  · rintro stream ⟨later, rfl⟩
    rw [hheard.applied]
    exact hheard.decoded.trans (Wire.messages_prefix _ _)
  · exact hinterrupted.due hsent
  · exact (activeAfter_eq_some_iff before p).1 (hinterrupted.due hasked)

end Service

/-! ### An errand -/

namespace Errand

/-- Reads and observations are listed; after the last read the connection is closed. -/
def surroundings : Surroundings (List Read × List (Option Bool)) where
  read
    | _, ([], answers) => (.closed, [], answers)
    | _, (r :: reads, answers) => (r, reads, answers)
  write _ l := (.ok (), l)
  sample
    | _, (reads, []) => (none, reads, [])
    | _, (reads, answer :: answers) => (answer, reads, answers)

/-- A block with the number of the worker and one that begins a run. -/
def opening : Bytes :=
  Wire.encode (CoordinatorMessage.register ⟨7⟩) ++ Wire.encode (CoordinatorMessage.start ⟨1⟩)

/-- The end of that run and the beginning of another. -/
def change : Bytes :=
  Wire.encode CoordinatorMessage.stop ++ Wire.encode (CoordinatorMessage.start ⟨2⟩)

/-- The first blocks are cut within the second one, the others come between two observations. -/
def reads : List Read :=
  [.received (opening.take 20), .received (opening.drop 20), .nothing, .received change, .nothing]

/-- The first observation is `true`, the second property cannot be evaluated. -/
def answers : List (Option Bool) := [some true, none]

/-- The worker when it has its number. -/
def registered : Service (((List Read × List (Option Bool)) × List Exchange) × Bytes) :=
  (Service.register surroundings.monitored.recording 3
    ⟨.create, (((reads, answers), []), []), []⟩).2

/-- The worker when the connection has been closed. -/
def served : Service (((List Read × List (Option Bool)) × List Exchange) × Bytes) :=
  (Service.serve surroundings.monitored.recording 6 registered).2

theorem register_registered : Service.register surroundings.monitored.recording 3
    ⟨.create, (((reads, answers), []), []), []⟩ = (.ok (), registered) := rfl

theorem serve_served :
    Service.serve surroundings.monitored.recording 6 registered
      = ((Service.serve surroundings.monitored.recording 6 registered).1, served) := rfl

theorem history_served : served.history = [.asked ⟨2⟩ none, .applied (.start ⟨2⟩), .applied .stop,
    .sent (.observation ⟨1⟩ true), .asked ⟨1⟩ (some true), .applied (.start ⟨1⟩)] := by decide +kernel

/-- The first run is sampled until it ends, the second one is declined. -/
theorem samples_what_it_is_asked_for_errand :
    served.applied = [.start ⟨1⟩, .stop, .start ⟨2⟩] ∧ served.sent = [.observation ⟨1⟩ true] ∧
      served.surroundings.1.2 = [.asked ⟨2⟩ none,
        .written (Wire.encode (WorkerMessage.observation ⟨1⟩ true)), .asked ⟨1⟩ (some true)] ∧
      (∃ id, ∀ stream, opening ++ change <+: stream →
        .register id :: served.applied <+: messages stream) ∧
      ∀ p answer before, .asked p answer :: before <:+ served.history →
        requested (before.filterMap (·.applied?)) = some p ∧ ¬Service.Declined before := by
  have hread : served.bytesRead = opening ++ change := by decide +kernel
  obtain ⟨-, ⟨id, happlied⟩, htape, -, -, -, hasked⟩ :=
    Service.samples_what_it_is_asked_for surroundings (reads, answers) register_registered
      serve_served
  refine ⟨?_, ?_, ?_, ⟨id, fun stream hstream => happlied stream (hread ▸ hstream)⟩, hasked⟩
  · unfold Service.applied
    rw [history_served]
    rfl
  · unfold Service.sent
    rw [history_served]
    rfl
  · rw [htape, history_served]
    rfl

end Errand

end SimCheck
