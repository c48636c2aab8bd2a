import Mathlib.Tactic.Common
import SimCheck.Worker.Service

/-!
# Services and the bytes they have read

The bytes that a service has read can be kept beside its surroundings, where the service does not look.

* `Surroundings.recording`: the surroundings that keep them, `Service.bytesRead`: the bytes;
* `Surroundings.Extends f env' env`: `env'` does what `env` does and keeps more, which `f` forgets;
* `Service.Extends f x' x`: but for what the surroundings keep, `x'` is `x`; `Service.Extends.serve`;
* `Service.Records x' x`: but for the bytes it keeps, `x'` is `x`;
* `Served`: the services that registration and rounds lead to;
* `Served.exists_recording`: each of them could have kept the bytes it has read.
-/

namespace SimCheck

open Wire (Bytes CoordinatorMessage WorkerMessage decodeNext? decodeUntilError)

variable {L α β : Type}

/-! ### Bytes that have been read -/

/-- The bytes that a read has brought. -/
def Read.bytes : Read → Bytes
  | received bytes => bytes
  | nothing | closed | failed _ => []

namespace Surroundings

/-- The same surroundings, which keep the bytes that have been read. -/
def recording (env : Surroundings L) : Surroundings (L × Bytes) where
  read wait l :=
    let r := env.read wait l.1
    (r.1, r.2, l.2 ++ r.1.bytes)
  write bytes l :=
    let r := env.write bytes l.1
    (r.1, r.2, l.2)
  sample property l :=
    let r := env.sample property l.1
    (r.1, r.2, l.2)

variable {env : Surroundings L} {l : L × Bytes} {next : L}

theorem recording_read {wait : Bool} {outcome : Read} (h : env.read wait l.1 = (outcome, next)) :
    env.recording.read wait l = (outcome, next, l.2 ++ outcome.bytes) := by
  show ((env.read wait l.1).1, (env.read wait l.1).2, l.2 ++ (env.read wait l.1).1.bytes) = _
  rw [h]

theorem recording_write {bytes : Bytes} {outcome : Except Bool Unit}
    (h : env.write bytes l.1 = (outcome, next)) :
    env.recording.write bytes l = (outcome, next, l.2) := by
  show ((env.write bytes l.1).1, (env.write bytes l.1).2, l.2) = _
  rw [h]

theorem recording_sample {p : PropertyId} {answer : Option Bool}
    (h : env.sample p l.1 = (answer, next)) : env.recording.sample p l = (answer, next, l.2) := by
  show ((env.sample p l.1).1, (env.sample p l.1).2, l.2) = _
  rw [h]

end Surroundings

/-- The bytes that a service has read. -/
def Service.bytesRead (σ : Service (L × Bytes)) : Bytes := σ.surroundings.2

/-! ### Services in surroundings that keep more -/

variable {L' : Type} {f : L' → L} {env' : Surroundings L'} {env : Surroundings L}

/-- The first surroundings do what the second ones do, and keep more, which `f` forgets. -/
structure Surroundings.Extends (f : L' → L) (env' : Surroundings L') (env : Surroundings L) : Prop where
  read : ∀ wait l, Prod.map id f (env'.read wait l) = env.read wait (f l)
  write : ∀ bytes l, Prod.map id f (env'.write bytes l) = env.write bytes (f l)
  sample : ∀ property l, Prod.map id f (env'.sample property l) = env.sample property (f l)

theorem Surroundings.recording_extends (env : Surroundings L) : env.recording.Extends Prod.fst env :=
  ⟨fun _ _ => rfl, fun _ _ => rfl, fun _ _ => rfl⟩

namespace Service

/-- The same service in other surroundings. -/
def map (f : L' → L) (σ : Service L') : Service L := ⟨σ.worker, f σ.surroundings, σ.history⟩

/-- The first computation is the second one, but for what the surroundings keep. -/
def Extends (f : L' → L) (x' : Serving L' α) (x : Serving L α) : Prop :=
  ∀ σ, Prod.map id (map f) (x' σ : Except ServiceHalt α × Service L') = x (σ.map f)

namespace Extends

theorem pure (a : α) : Extends f (Pure.pure a) (Pure.pure a) := fun _ => rfl

theorem throw (e : ServiceHalt) :
    Extends f (MonadExcept.throw e : Serving L' α) (MonadExcept.throw e) := fun _ => rfl

theorem bind {x' : Serving L' α} {x : Serving L α} {g' : α → Serving L' β} {g : α → Serving L β}
    (hx : Extends f x' x) (hg : ∀ a, Extends f (g' a) (g a)) : Extends f (x' >>= g') (x >>= g) := by
  intro σ
  have hσ := hx σ
  simp only [Bind.bind, ExceptT.bind, ExceptT.mk, ExceptT.bindCont, StateT.bind]
  rw [← hσ]
  rcases (x' σ : Except ServiceHalt α × Service L') with ⟨e | a, τ⟩
  · rfl
  · exact hg a τ

theorem get_bind {g' : Service L' → Serving L' β} {g : Service L → Serving L β}
    (hg : ∀ σ, Extends f (g' σ) (g (σ.map f))) : Extends f (get >>= g') (get >>= g) :=
  fun σ => hg σ σ

theorem set (τ : Service L') :
    Extends f (MonadState.set τ : Serving L' PUnit) (MonadState.set (τ.map f)) := fun _ => rfl

theorem modifyWorker (g : Worker → Worker) :
    Extends f (Service.modifyWorker g) (Service.modifyWorker g) := fun _ => rfl

theorem note (a : WorkerAction) : Extends f (Service.note a) (Service.note a) := fun _ => rfl

theorem tryCatch {x' : Serving L' α} {x : Serving L α} {g' : ServiceHalt → Serving L' α}
    {g : ServiceHalt → Serving L α} (hx : Extends f x' x) (hg : ∀ e, Extends f (g' e) (g e)) :
    Extends f (tryCatchThe ServiceHalt x' g') (tryCatchThe ServiceHalt x g) := by
  intro σ
  have hσ := hx σ
  simp only [tryCatchThe, MonadExceptOf.tryCatch, ExceptT.tryCatch, ExceptT.mk, Bind.bind, StateT.bind]
  rw [← hσ]
  rcases (x' σ : Except ServiceHalt α × Service L') with ⟨e | a, τ⟩
  · exact hg e τ
  · rfl

/-! ### One operation after the other -/

section

variable (h : env'.Extends f env)

include h

theorem fill (wait : Bool) : Extends f (Service.fill env' wait) (Service.fill env wait) := by
  refine get_bind fun σ => ?_
  have hread : env.read wait (σ.map f).surroundings
      = Prod.map id f (env'.read wait σ.surroundings) := (h.read wait σ.surroundings).symm
  rw [hread]
  rcases env'.read wait σ.surroundings with ⟨outcome, l⟩
  refine bind (set _) fun _ => ?_
  cases outcome with
  | received bytes => exact bind (modifyWorker _) fun _ => pure _
  | nothing => exact pure _
  | closed => exact pure _
  | failed gone => exact throw _

theorem receive (fuel : ℕ) : Extends f (Service.receive env' fuel) (Service.receive env fuel) := by
  induction fuel with
  | zero => exact throw _
  | succ fuel ih =>
    refine get_bind fun σ => ?_
    have hincoming : (σ.map f).worker.incoming = σ.worker.incoming := rfl
    rw [hincoming]
    rcases decodeNext? (α := CoordinatorMessage) σ.worker.incoming with _ | ⟨_ | m, rest⟩
    · refine bind (fill h true) fun isOpen => ?_
      cases isOpen with
      | true => exact ih
      | false => exact pure _
    · exact bind (modifyWorker _) fun _ => throw _
    · exact bind (modifyWorker _) fun _ => pure _

omit h in
theorem apply (m : CoordinatorMessage) : Extends f (Service.apply m) (Service.apply m) :=
  bind (modifyWorker _) fun _ => note _

theorem applyReady : Extends f (Service.applyReady env') (Service.applyReady env) := by
  have hforM (ms : List CoordinatorMessage) :
      Extends f (ms.forM Service.apply) (ms.forM Service.apply) := by
    induction ms with
    | nil => exact pure _
    | cons m ms ih => exact bind (apply m) fun _ => ih
  refine bind (fill h false) fun isOpen => ?_
  cases isOpen with
  | false => exact throw _
  | true =>
    refine get_bind fun σ => ?_
    have hincoming : (σ.map f).worker.incoming = σ.worker.incoming := rfl
    rw [hincoming]
    rcases decodeUntilError (α := CoordinatorMessage) σ.worker.incoming with ⟨new, rest, error⟩
    refine bind (modifyWorker _) fun _ => bind (hforM new) fun _ => ?_
    cases error with
    | none => exact pure _
    | some e => exact throw _

theorem send (m : WorkerMessage) : Extends f (Service.send env' m) (Service.send env m) := by
  refine get_bind fun σ => ?_
  have hwrite : env.write (Wire.encode m) (σ.map f).surroundings
      = Prod.map id f (env'.write (Wire.encode m) σ.surroundings) :=
    (h.write (Wire.encode m) σ.surroundings).symm
  rw [hwrite]
  rcases env'.write (Wire.encode m) σ.surroundings with ⟨outcome, l⟩
  refine bind (set _) fun _ => ?_
  rcases outcome with gone | ⟨⟩
  · exact throw _
  · exact note _

theorem sampleOnce (p : PropertyId) :
    Extends f (Service.sampleOnce env' p) (Service.sampleOnce env p) := by
  refine get_bind fun σ => ?_
  have hsample : env.sample p (σ.map f).surroundings
      = Prod.map id f (env'.sample p σ.surroundings) := (h.sample p σ.surroundings).symm
  rw [hsample]
  rcases env'.sample p σ.surroundings with ⟨answer, l⟩
  refine bind (set _) fun _ => bind (note _) fun _ => ?_
  cases answer with
  | none => exact modifyWorker _
  | some holds => exact send h _

/-- A round goes the same way whatever is kept. -/
theorem round (fuel : ℕ) : Extends f (Service.round env' fuel) (Service.round env fuel) := by
  refine get_bind fun σ => ?_
  have hactive : (σ.map f).worker.active = σ.worker.active := rfl
  rw [hactive]
  cases σ.worker.active with
  | none =>
    refine bind (receive h fuel) fun m => ?_
    cases m with
    | none => exact pure _
    | some m => exact bind (apply m) fun _ => pure _
  | some p =>
    refine bind (applyReady h) fun _ => get_bind fun τ => ?_
    have hactive : (τ.map f).worker.active = τ.worker.active := rfl
    rw [hactive]
    split_ifs
    · exact bind (sampleOnce h p) fun _ => pure _
    · exact pure _

theorem rounds (fuel : ℕ) : Extends f (Service.rounds env' fuel) (Service.rounds env fuel) := by
  induction fuel with
  | zero => exact throw _
  | succ fuel ih =>
    refine bind (round h fuel) fun isOpen => ?_
    cases isOpen with
    | true => exact ih
    | false => exact pure _

theorem serve (fuel : ℕ) : Extends f (Service.serve env' fuel) (Service.serve env fuel) := by
  refine tryCatch (rounds h fuel) fun e => ?_
  cases e with
  | outOfFuel => exact throw _
  | error e =>
    show Extends f (if e.isDeparture then _ else _) (if e.isDeparture then _ else _)
    split_ifs
    · exact pure _
    · exact throw _

theorem register (fuel : ℕ) : Extends f (Service.register env' fuel) (Service.register env fuel) := by
  refine bind (receive h fuel) fun m => ?_
  rcases m with _ | ⟨id | p | _⟩
  · exact throw _
  · exact modifyWorker _
  · exact throw _
  · exact throw _

end

end Extends

/-! ### Without the bytes -/

/-- The service without the bytes that it has read. -/
def forget (σ : Service (L × Bytes)) : Service L := ⟨σ.worker, σ.surroundings.1, σ.history⟩

/-- The first computation is the second one, but for the bytes that it keeps. -/
def Records (x' : Serving (L × Bytes) α) (x : Serving L α) : Prop :=
  ∀ σ, Prod.map id forget (x' σ : Except ServiceHalt α × Service (L × Bytes)) = x σ.forget

namespace Records

variable (env : Surroundings L)

theorem applyReady : Records (Service.applyReady env.recording) (Service.applyReady env) :=
  Extends.applyReady env.recording_extends

theorem round (fuel : ℕ) : Records (Service.round env.recording fuel) (Service.round env fuel) :=
  Extends.round env.recording_extends fuel

theorem register (fuel : ℕ) :
    Records (Service.register env.recording fuel) (Service.register env fuel) :=
  Extends.register env.recording_extends fuel

omit env in
theorem exists_of_eq {x' : Serving (L × Bytes) α} {x : Serving L α} (h : Records x' x)
    {σ : Service (L × Bytes)} {r : Except ServiceHalt α} {τ : Service L}
    (hx : x σ.forget = (r, τ)) : ∃ τ', x' σ = (r, τ') ∧ τ'.forget = τ := by
  obtain ⟨hr, hτ⟩ := Prod.mk.inj ((h σ).trans hx)
  exact ⟨_, Prod.ext hr rfl, hτ⟩

end Records

end Service

/-! ### Whole services -/

/-- Whether a round leads on to another. -/
def Service.goesOn : Except ServiceHalt Bool → Bool
  | .ok isOpen => isOpen
  | .error .outOfFuel => true
  | .error (.error _) => false

/-- The services that registration and rounds lead to in surroundings that are in a state at first, and
whether they go on. -/
inductive Served (env : Surroundings L) (l : L) : Bool → Service L → Prop
  | register (fuel : ℕ) {σ : Service L} (h : Service.register env fuel ⟨.create, l, []⟩ = (.ok (), σ)) :
      Served env l true σ
  | round (fuel : ℕ) {σ τ : Service L} {outcome : Except ServiceHalt Bool} (h : Served env l true σ)
      (hround : Service.round env fuel σ = (outcome, τ)) : Served env l (Service.goesOn outcome) τ
  /-- Within a round, before an observation is made. -/
  | ready {σ τ : Service L} (h : Served env l true σ)
      (hready : Service.applyReady env σ = (.ok (), τ)) : Served env l true τ

/-- **A service could have kept the bytes that it has read.** -/
theorem Served.exists_recording {env : Surroundings L} {l : L} {running : Bool} {σ : Service L}
    (h : Served env l running σ) :
    ∃ σ', Served env.recording (l, []) running σ' ∧ σ'.forget = σ := by
  induction h with
  | register fuel h =>
    obtain ⟨σ', hσ', rfl⟩ :=
      (Service.Records.register env fuel).exists_of_eq (σ := ⟨.create, (l, []), []⟩) h
    exact ⟨σ', .register fuel hσ', rfl⟩
  | round fuel _ hround ih =>
    obtain ⟨σ', hserved, rfl⟩ := ih
    obtain ⟨τ', hτ', rfl⟩ := (Service.Records.round env fuel).exists_of_eq hround
    exact ⟨τ', hserved.round fuel hτ', rfl⟩
  | ready _ hready ih =>
    obtain ⟨σ', hserved, rfl⟩ := ih
    obtain ⟨τ', hτ', rfl⟩ := (Service.Records.applyReady env).exists_of_eq hready
    exact ⟨τ', hserved.ready hτ', rfl⟩

end SimCheck
