import SimCheck.Proofs.Agreement.Recording
import SimCheck.Proofs.Delivery.Stream

/-!
# What a worker has heard

A worker applies the messages that are decoded from the bytes it has read, in order.  The property it
samples is the one that it has been asked for last, unless it could not evaluate it.

* `Service.applied`, `Service.activeAfter`: what a history tells;
* `Service.Ends`: what comes of a computation of a service, step by step;
* `Service.Hears ms as`: the messages `ms` have been decoded, and `as` have been applied;
* `Service.receive_hears`, `Service.applyReady_hears`, `Service.round_inStep`: a message, the messages
  that are there, a round;
* `Served.followed`: whole services.
-/

namespace SimCheck

open Wire (Bytes CoordinatorMessage WorkerMessage messages decodeNext? decodeUntilError)

variable {L α β : Type}

/-! ### Histories -/

namespace WorkerAction

/-- The message of the coordinator that is applied. -/
def applied? : WorkerAction → Option CoordinatorMessage
  | applied m => some m
  | asked _ _ | sent _ => none

/-- The property that is sampled after an action, by that before it. -/
def activity : WorkerAction → Option PropertyId → Option PropertyId
  | applied (.start p), _ => some p
  | applied .stop, _ | asked _ none, _ => none
  | applied (.register _), active | asked _ (some _), active | sent _, active => active

end WorkerAction

namespace Service

/-- The messages that have been applied since the worker was registered, the first one first. -/
def applied (σ : Service L) : List CoordinatorMessage := (σ.history.filterMap (·.applied?)).reverse

/-- The property that is sampled after some actions, the latest of which comes first. -/
def activeAfter : List WorkerAction → Option PropertyId
  | [] => none
  | a :: h => a.activity (activeAfter h)

/-! ### Computations of a service -/

/-- The computation ends with a value such that `Q` holds, or it halts and `E` holds. -/
def Ends (x : Serving L α) (Q : α → Service L → Prop) (E : ServiceHalt → Service L → Prop)
    (σ : Service L) : Prop :=
  match (x σ : Except ServiceHalt α × Service L) with
  | (.ok a, τ) => Q a τ
  | (.error e, τ) => E e τ

section

variable {Q Q' : α → Service L → Prop} {E E' : ServiceHalt → Service L → Prop} {σ : Service L}

theorem Ends.mono {x : Serving L α} (h : Ends x Q E σ) (hQ : ∀ a τ, Q a τ → Q' a τ)
    (hE : ∀ e τ, E e τ → E' e τ) : Ends x Q' E' σ := by
  unfold Ends at h ⊢
  split at h
  · exact hQ _ _ h
  · exact hE _ _ h

theorem Ends.of_eq_ok {x : Serving L α} {a : α} {τ : Service L} (h : Ends x Q E σ)
    (hx : x σ = (.ok a, τ)) : Q a τ := by
  unfold Ends at h
  rwa [hx] at h

theorem Ends.of_eq_error {x : Serving L α} {e : ServiceHalt} {τ : Service L} (h : Ends x Q E σ)
    (hx : x σ = (.error e, τ)) : E e τ := by
  unfold Ends at h
  rwa [hx] at h

theorem ends_bind {x : Serving L β} {f : β → Serving L α} :
    Ends (x >>= f) Q E σ ↔ Ends x (fun b => Ends (f b) Q E) E σ := by
  unfold Ends
  simp only [bind, ExceptT.bind, ExceptT.mk, ExceptT.bindCont, StateT.bind]
  rcases (x σ : Except ServiceHalt β × Service L) with ⟨_ | _, _⟩ <;> rfl

theorem ends_get {Q : Service L → Service L → Prop} : Ends get Q E σ ↔ Q σ σ := Iff.rfl

theorem ends_set {Q : PUnit → Service L → Prop} {τ : Service L} :
    Ends (set τ) Q E σ ↔ Q () τ := Iff.rfl

theorem ends_modifyWorker {Q : Unit → Service L → Prop} {f : Worker → Worker} :
    Ends (modifyWorker f) Q E σ ↔ Q () { σ with worker := f σ.worker } := Iff.rfl

theorem ends_note {Q : Unit → Service L → Prop} {a : WorkerAction} :
    Ends (note a) Q E σ ↔ Q () { σ with history := a :: σ.history } := Iff.rfl

end

/-! ### Messages that are decoded and applied -/

/-- The messages `as` have been applied since the worker was registered, and it samples what it has been
asked for last. -/
structure Obeys (as : List CoordinatorMessage) (σ : Service L) : Prop where
  applied : σ.applied = as
  active : σ.worker.active = activeAfter σ.history

/-- The messages `ms` have been decoded from the bytes that have been read, which end with those that
have not been decoded. -/
structure Hears (ms as : List CoordinatorMessage) (σ : Service (L × Bytes)) : Prop
    extends Obeys as σ where
  decoded : decodeUntilError σ.bytesRead = (ms ++ (decodeUntilError σ.worker.incoming).1,
    (decodeUntilError (α := CoordinatorMessage) σ.worker.incoming).2)

/-- The messages `ms` are the first that have been decoded. -/
structure Heard (ms as : List CoordinatorMessage) (σ : Service (L × Bytes)) : Prop
    extends Obeys as σ where
  decoded : ms <+: messages σ.bytesRead

/-- What is known of a service that has halted. -/
def Halted (ms as : List CoordinatorMessage) : ServiceHalt → Service (L × Bytes) → Prop
  | .outOfFuel, σ => Hears ms as σ
  | .error _, σ => Heard ms as σ

/-- The worker has been registered, and has applied all messages after that which it has decoded. -/
def InStep (σ : Service (L × Bytes)) : Prop := ∃ id as, Hears (.register id :: as) as σ

/-- The worker has been registered, and has applied the first messages after that. -/
def Followed (σ : Service (L × Bytes)) : Prop := ∃ id as, Heard (.register id :: as) as σ

/-- A service that has run out of fuel can go on. -/
def Stopped (e : ServiceHalt) (σ : Service (L × Bytes)) : Prop :=
  ∃ id as, Halted (.register id :: as) as e σ

variable {ms as : List CoordinatorMessage}

/-- A message is applied. -/
theorem Obeys.apply {σ : Service L} (h : Obeys as σ) (m : CoordinatorMessage) :
    Obeys (as ++ [m])
      { σ with worker := σ.worker.apply m, history := .applied m :: σ.history } where
  applied := by
    rw [← h.applied]
    exact List.reverse_cons
  active := by
    cases m with
    | register id => exact h.active
    | start p => rfl
    | stop => rfl

variable {σ : Service (L × Bytes)}

namespace Hears

theorem heard (h : Hears ms as σ) : Heard ms as σ where
  toObeys := h.toObeys
  decoded := by
    unfold messages
    rw [h.decoded]
    exact List.prefix_append _ _

theorem halted (h : Hears ms as σ) (e : ServiceHalt) : Halted ms as e σ := by
  cases e with
  | outOfFuel => exact h
  | error e => exact h.heard

/-- More bytes are read. -/
theorem read (h : Hears ms as σ) (l : L) (bytes : Bytes) :
    Hears ms as
      { σ with
        worker.incoming := σ.worker.incoming ++ bytes
        surroundings := (l, σ.bytesRead ++ bytes) } where
  applied := h.applied
  active := h.active
  decoded := by
    show decodeUntilError (σ.bytesRead ++ bytes)
      = (ms ++ (decodeUntilError (σ.worker.incoming ++ bytes)).1,
        (decodeUntilError (σ.worker.incoming ++ bytes)).2)
    rw [Wire.decodeUntilError_append, h.decoded, Wire.resume_append, Wire.decodeUntilError_append]

/-- Something else happens to the surroundings. -/
theorem surroundings (h : Hears ms as σ) (l : L) :
    Hears ms as { σ with surroundings := (l, σ.bytesRead) } := ⟨⟨h.applied, h.active⟩, h.decoded⟩

/-- A message is decoded. -/
theorem next (h : Hears ms as σ) {m : CoordinatorMessage} {rest : Bytes}
    (hnext : decodeNext? σ.worker.incoming = some (.ok m, rest)) :
    Hears (ms ++ [m]) as { σ with worker.incoming := rest } where
  applied := h.applied
  active := h.active
  decoded := by
    show decodeUntilError σ.bytesRead
      = ((ms ++ [m]) ++ (decodeUntilError rest).1, (decodeUntilError rest).2)
    rw [h.decoded, Wire.decodeUntilError_of_ok hnext, List.append_assoc]
    rfl

/-- All messages are decoded that are there. -/
theorem all (h : Hears ms as σ) {new : List CoordinatorMessage} {rest : Bytes}
    (hnew : decodeUntilError σ.worker.incoming = (new, rest, none)) :
    Hears (ms ++ new) as { σ with worker.incoming := rest } where
  applied := h.applied
  active := h.active
  decoded := by
    show decodeUntilError σ.bytesRead
      = ((ms ++ new) ++ (decodeUntilError rest).1, (decodeUntilError rest).2)
    rw [Wire.decodeUntilError_rest hnew, h.decoded, hnew, List.append_nil]

/-- A message is applied. -/
theorem apply (h : Hears ms as σ) (m : CoordinatorMessage) :
    Hears ms (as ++ [m])
      { σ with worker := σ.worker.apply m, history := .applied m :: σ.history } where
  toObeys := h.toObeys.apply m
  decoded := by
    have hincoming : (σ.worker.apply m).incoming = σ.worker.incoming := by cases m <;> rfl
    show decodeUntilError σ.bytesRead = (ms ++ (decodeUntilError (σ.worker.apply m).incoming).1,
      (decodeUntilError (σ.worker.apply m).incoming).2)
    rw [hincoming]
    exact h.decoded

end Hears

/-! ### One operation after the other -/

section

variable (env : Surroundings L)

theorem fill_hears (wait : Bool) (h : Hears ms as σ) :
    Ends (fill env.recording wait) (fun _ => Hears ms as) (fun _ => Hears ms as) σ := by
  rcases hread : env.read wait σ.surroundings.1 with ⟨outcome, l⟩
  have hnothing : Hears ms as { σ with surroundings := (l, σ.bytesRead ++ []) } := by
    rw [List.append_nil]
    exact h.surroundings l
  unfold fill
  rw [ends_bind, ends_get, Surroundings.recording_read hread]
  dsimp only
  rw [ends_bind, ends_set]
  cases outcome with
  | received bytes => exact h.read l bytes
  | nothing => exact hnothing
  | closed => exact hnothing
  | failed gone => exact hnothing

/-- A message is waited for. -/
theorem receive_hears (fuel : ℕ) (h : Hears ms as σ) :
    Ends (receive env.recording fuel) (fun m => Hears (ms ++ m.toList) as) (Halted ms as) σ := by
  induction fuel generalizing σ with
  | zero => exact h
  | succ fuel ih =>
    unfold receive
    rw [ends_bind, ends_get]
    cases hnext : decodeNext? (α := CoordinatorMessage) σ.worker.incoming with
    | none =>
      dsimp only
      rw [ends_bind]
      refine (fill_hears env true h).mono (fun isOpen τ hτ => ?_) fun e τ hτ => hτ.halted e
      cases isOpen with
      | true => exact ih hτ
      | false =>
        show Hears (ms ++ []) as τ
        rwa [List.append_nil]
    | some r =>
      obtain ⟨m, rest⟩ := r
      dsimp only
      rw [ends_bind, ends_modifyWorker]
      cases m with
      | ok m => exact h.next hnext
      | error e => exact ⟨⟨h.applied, h.active⟩, h.heard.decoded⟩

theorem apply_hears {E : ServiceHalt → Service (L × Bytes) → Prop} (m : CoordinatorMessage)
    (h : Hears ms as σ) : Ends (Service.apply m) (fun _ => Hears ms (as ++ [m])) E σ := by
  unfold Service.apply
  rw [ends_bind, ends_modifyWorker, ends_note]
  exact h.apply m

/-- Messages are applied, and nothing else. -/
theorem forM_apply_obeys {E : ServiceHalt → Service (L × Bytes) → Prop}
    (new : List CoordinatorMessage) (h : Obeys as σ) :
    Ends (new.forM Service.apply) (fun _ τ => Obeys (as ++ new) τ ∧
      τ.worker.incoming = σ.worker.incoming ∧ τ.bytesRead = σ.bytesRead) E σ := by
  induction new generalizing as σ with
  | nil =>
    show Obeys (as ++ []) σ ∧ _
    rw [List.append_nil]
    exact ⟨h, rfl, rfl⟩
  | cons m new ih =>
    have hincoming : (σ.worker.apply m).incoming = σ.worker.incoming := by cases m <;> rfl
    show Ends (Service.apply m >>= fun _ => new.forM Service.apply) _ E σ
    unfold Service.apply
    rw [ends_bind, ends_bind, ends_modifyWorker, ends_note, List.append_cons]
    refine (ih (h.apply m)).mono (fun _ τ hτ => ?_) fun _ _ hE => hE
    exact ⟨hτ.1, hτ.2.1.trans hincoming, hτ.2.2⟩

/-- Applies the messages that have been decoded. -/
def applyDecoded : List CoordinatorMessage × Bytes × Option Wire.Error → Serving L Unit
  | (new, incoming, error) => do
    modifyWorker fun w => { w with incoming }
    new.forM Service.apply
    match error with
    | none => return ()
    | some e => giveUp (.wire e)

omit σ in
theorem applyReady_eq (env : Surroundings L) : applyReady env = (do
    unless ← fill env false do giveUp .connectionClosed
    applyDecoded (decodeUntilError (← get).worker.incoming)) := rfl

theorem applyDecoded_inStep (h : InStep σ) :
    Ends (applyDecoded (decodeUntilError σ.worker.incoming)) (fun _ => InStep) Stopped σ := by
  obtain ⟨id, as, h⟩ := h
  rcases hdecode : decodeUntilError (α := CoordinatorMessage) σ.worker.incoming with
    ⟨new, rest, error⟩
  have hobeys : Obeys as { σ with worker.incoming := rest } := ⟨h.applied, h.active⟩
  unfold applyDecoded
  rw [ends_bind, ends_modifyWorker, ends_bind]
  refine (forM_apply_obeys new hobeys).mono (fun _ τ hτ => ?_) fun e τ hτ => hτ
  obtain ⟨hτ, hincoming, hread⟩ := hτ
  cases error with
  | none =>
    refine ⟨id, as ++ new, hτ, ?_⟩
    have hall := (h.all hdecode).decoded
    rw [hincoming, hread]
    exact hall
  | some e =>
    refine ⟨id, as ++ new, hτ, ?_⟩
    rw [hread]
    show _ <+: (decodeUntilError σ.bytesRead).1
    rw [h.decoded, hdecode]
    exact List.prefix_refl _

/-- The messages are applied that are there. -/
theorem applyReady_inStep (h : InStep σ) :
    Ends (applyReady env.recording) (fun _ => InStep) Stopped σ := by
  obtain ⟨id, as, h⟩ := h
  rw [applyReady_eq, ends_bind]
  refine (fill_hears env false h).mono (fun isOpen τ hτ => ?_) fun e τ hτ => ⟨id, as, hτ.halted e⟩
  cases isOpen with
  | false => exact ⟨id, as, hτ.heard⟩
  | true => exact applyDecoded_inStep ⟨id, as, hτ⟩

/-- An observation is sent. -/
theorem send_inStep (m : WorkerMessage) (h : InStep σ) :
    Ends (send env.recording m) (fun _ => InStep) Stopped σ := by
  obtain ⟨id, as, h⟩ := h
  rcases hwrite : env.write (Wire.encode m) σ.surroundings.1 with ⟨outcome, l⟩
  unfold send
  rw [ends_bind, ends_get, Surroundings.recording_write hwrite]
  dsimp only
  rw [ends_bind, ends_set]
  rcases outcome with gone | ⟨⟩
  · exact ⟨id, as, (h.surroundings l).heard⟩
  · exact ⟨id, as, ⟨h.applied, h.active⟩, h.decoded⟩

/-- An observation is made, or the worker stops sampling. -/
theorem sampleOnce_inStep (p : PropertyId) (h : InStep σ) :
    Ends (sampleOnce env.recording p) (fun _ => InStep) Stopped σ := by
  obtain ⟨id, as, h⟩ := h
  rcases hsample : env.sample p σ.surroundings.1 with ⟨answer, l⟩
  unfold sampleOnce
  rw [ends_bind, ends_get, Surroundings.recording_sample hsample]
  dsimp only
  rw [ends_bind, ends_set, ends_bind, ends_note]
  cases answer with
  | none => exact ⟨id, as, ⟨h.applied, rfl⟩, h.decoded⟩
  | some holds => exact send_inStep env _ ⟨id, as, ⟨h.applied, h.active⟩, h.decoded⟩

/-- **A round.** -/
theorem round_inStep (fuel : ℕ) (h : InStep σ) :
    Ends (round env.recording fuel) (fun _ => InStep) Stopped σ := by
  unfold round
  rw [ends_bind, ends_get]
  cases hactive : σ.worker.active with
  | none =>
    obtain ⟨id, as, h⟩ := h
    dsimp only
    rw [ends_bind]
    refine (receive_hears env fuel h).mono (fun m τ hτ => ?_) fun e τ hτ => ⟨id, as, hτ⟩
    cases m with
    | none => exact ⟨id, as, by simpa using hτ⟩
    | some m =>
      show Ends (Service.apply m >>= fun _ => pure true) _ _ τ
      rw [ends_bind]
      exact (apply_hears m hτ).mono (fun _ τ' hτ' => ⟨id, as ++ [m], hτ'⟩) fun _ _ he => he
  | some p =>
    dsimp only
    rw [ends_bind]
    refine (applyReady_inStep env h).mono (fun _ τ hτ => ?_) fun e τ hτ => hτ
    rw [ends_bind, ends_get]
    split_ifs
    · rw [ends_bind]
      exact (sampleOnce_inStep env p hτ).mono (fun _ _ hτ' => hτ') fun _ _ he => he
    · exact hτ

/-- A worker that has been registered has heard its number. -/
theorem register_inStep (fuel : ℕ) (l : L) :
    Ends (register env.recording fuel) (fun _ => InStep) (fun _ _ => True) ⟨.create, (l, []), []⟩ := by
  have hstart : Hears [] [] (⟨.create, (l, []), []⟩ : Service (L × Bytes)) := by
    refine ⟨⟨rfl, rfl⟩, ?_⟩
    show decodeUntilError [] = ([] ++ (decodeUntilError []).1, (decodeUntilError []).2)
    rw [List.nil_append]
  unfold register
  rw [ends_bind]
  refine (receive_hears env fuel hstart).mono (fun m τ hτ => ?_) fun _ _ _ => trivial
  cases m with
  | none => trivial
  | some m =>
    cases m with
    | register id => exact ⟨id, [], ⟨hτ.applied, hτ.active⟩, hτ.decoded⟩
    | start p => trivial
    | stop => trivial

end

end Service

/-- **A worker has applied the first messages it has been sent, in order, and samples what it has been
asked for last.** -/
theorem Served.followed {env : Surroundings L} {l : L} {running : Bool} {σ : Service (L × Bytes)}
    (h : Served env.recording (l, []) running σ) :
    Service.Followed σ ∧ (running = true → Service.InStep σ) := by
  have hfollowed {σ : Service (L × Bytes)} : Service.InStep σ → Service.Followed σ := by
    rintro ⟨id, as, h⟩
    exact ⟨id, as, h.heard⟩
  induction h with
  | register fuel h =>
    have hstep := (Service.register_inStep env fuel l).of_eq_ok h
    exact ⟨hfollowed hstep, fun _ => hstep⟩
  | @round fuel σ τ outcome _ hround ih =>
    have hends := Service.round_inStep env fuel (ih.2 rfl)
    cases outcome with
    | ok isOpen =>
      have hstep := hends.of_eq_ok hround
      exact ⟨hfollowed hstep, fun _ => hstep⟩
    | error e =>
      obtain ⟨id, as, hstopped⟩ := hends.of_eq_error hround
      cases e with
      | outOfFuel => exact ⟨⟨id, as, hstopped.heard⟩, fun _ => ⟨id, as, hstopped⟩⟩
      | error e => exact ⟨⟨id, as, hstopped⟩, fun hgoes => (nomatch hgoes)⟩
  | ready _ hready ih =>
    have hstep := (Service.applyReady_inStep env (ih.2 rfl)).of_eq_ok hready
    exact ⟨hfollowed hstep, fun _ => hstep⟩

end SimCheck
