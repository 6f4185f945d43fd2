import ModelForge.Proofs.Step

/-! # How steps fail

A result or a step is safe if whatever it fails with is allowed; a safe step also keeps an invariant
of the state, whether it succeeds or fails. Sequences and lists of safe steps are safe
(`ModelForge.Step.FailsOnly.bind`, `ModelForge.Step.FailsOnly.mapM`), so a procedure is safe as soon
as its parts are.
-/

namespace ModelForge

namespace Result

variable {ε α β : Type} {allowed : ε → Prop}

/-- Whatever a result fails with is allowed. -/
def FailsOnly (allowed : ε → Prop) (x : Except ε α) : Prop := ∀ e, x = .error e → allowed e

theorem failsOnly_ok (a : α) : FailsOnly allowed (.ok a : Except ε α) := by
  intro e failed
  cases failed

theorem failsOnly_error {e : ε} (is : allowed e) : FailsOnly allowed (.error e : Except ε α) := by
  intro e' failed
  cases failed
  exact is

/-- One computation after the other fails only as allowed if both do. -/
theorem FailsOnly.bind {x : Except ε α} {f : α → Except ε β} (first : FailsOnly allowed x)
    (next : ∀ a, FailsOnly allowed (f a)) : FailsOnly allowed (x >>= f) := by
  cases x with
  | error e => exact failsOnly_error (first e rfl)
  | ok a => exact next a

theorem FailsOnly.map {x : Except ε α} (safe : FailsOnly allowed x) (f : α → β) :
    FailsOnly allowed (x.map f) := by
  cases x with
  | error e => exact failsOnly_error (safe e rfl)
  | ok a => exact failsOnly_ok (f a)

/-- Checking a list fails only as allowed if checking each item does. -/
theorem FailsOnly.forM {f : α → Except ε Unit} {items : List α}
    (each : ∀ a, FailsOnly allowed (f a)) :
    FailsOnly allowed (items.forM f) := by
  induction items with
  | nil => exact failsOnly_ok ()
  | cons a items ih => exact (each a).bind fun _ => ih

end Result

namespace Step

variable {ε σ α β : Type} {inv : σ → Prop} {allowed : ε → Prop}

/-- From a state with an invariant a step ends in one, and whatever it fails with is allowed. -/
def Preserves (inv : σ → Prop) (allowed : ε → Prop) (x : ExceptT ε (StateM σ) α) : Prop :=
  ∀ s, inv s → inv (x.run.run s).2 ∧ Result.FailsOnly allowed (x.run.run s).1

theorem preserves_pure (a : α) : Preserves inv allowed (pure a : ExceptT ε (StateM σ) α) := by
  intro s holds
  exact ⟨holds, Result.failsOnly_ok a⟩

theorem preserves_throw {e : ε} (is : allowed e) :
    Preserves inv allowed (throw e : ExceptT ε (StateM σ) α) := by
  intro s holds
  exact ⟨holds, Result.failsOnly_error is⟩

theorem preserves_set {t : σ} (holds : inv t) :
    Preserves inv allowed (set t : ExceptT ε (StateM σ) PUnit) := by
  intro s _
  exact ⟨holds, Result.failsOnly_ok _⟩

/-- What follows a step may use that it succeeded from a state with the invariant. -/
theorem Preserves.bind_of_ok {x : ExceptT ε (StateM σ) α} {f : α → ExceptT ε (StateM σ) β}
    (first : Preserves inv allowed x)
    (next : ∀ s a t, inv s → x.run.run s = (.ok a, t) → Preserves inv allowed (f a)) :
    Preserves inv allowed (x >>= f) := by
  intro s holds
  obtain ⟨kept, failure⟩ := first s holds
  rcases outcome : x.run.run s with ⟨result, t⟩
  rw [outcome] at kept failure
  cases result with
  | error e =>
    rw [run_bind_of_error outcome]
    exact ⟨kept, Result.failsOnly_error (failure e rfl)⟩
  | ok a =>
    rw [run_bind_of_ok outcome]
    exact next s a t holds outcome t kept

/-- Steps one after the other keep an invariant if each of them does. -/
theorem Preserves.bind {x : ExceptT ε (StateM σ) α} {f : α → ExceptT ε (StateM σ) β}
    (first : Preserves inv allowed x) (next : ∀ a, Preserves inv allowed (f a)) :
    Preserves inv allowed (x >>= f) :=
  first.bind_of_ok fun _ a _ _ _ => next a

/-- A step with a handler keeps an invariant if both do. -/
theorem Preserves.tryCatch {x : ExceptT ε (StateM σ) α} {handler : ε → ExceptT ε (StateM σ) α}
    (tried : Preserves inv allowed x) (handled : ∀ e, Preserves inv allowed (handler e)) :
    Preserves inv allowed (tryCatch x handler) := by
  intro s holds
  obtain ⟨kept, -⟩ := tried s holds
  rcases outcome : x.run.run s with ⟨result, t⟩
  rw [outcome] at kept
  cases result with
  | error e =>
    rw [run_tryCatch_of_error outcome]
    exact handled e t kept
  | ok a =>
    rw [run_tryCatch_of_ok outcome]
    exact ⟨kept, Result.failsOnly_ok a⟩

/-- A step that looks at the state first may use the invariant. -/
theorem Preserves.get_bind {f : σ → ExceptT ε (StateM σ) β}
    (next : ∀ s, inv s → Preserves inv allowed (f s)) : Preserves inv allowed (get >>= f) := by
  intro s holds
  rw [run_bind_of_ok (run_get s)]
  exact next s holds s holds

/-- Steps over a list keep an invariant if the step for each item does. -/
theorem Preserves.mapM {f : α → ExceptT ε (StateM σ) β} {items : List α}
    (each : ∀ a ∈ items, Preserves inv allowed (f a)) : Preserves inv allowed (items.mapM f) := by
  induction items with
  | nil => exact preserves_pure []
  | cons a items ih =>
    obtain ⟨first, others⟩ := List.forall_mem_cons.mp each
    rw [List.mapM_cons]
    exact first.bind fun b => (ih others).bind fun bs => preserves_pure (b :: bs)

/-- Steps without results over a list keep an invariant if the step for each item does. -/
theorem Preserves.forM {f : α → ExceptT ε (StateM σ) Unit} {items : List α}
    (each : ∀ a ∈ items, Preserves inv allowed (f a)) : Preserves inv allowed (items.forM f) := by
  induction items with
  | nil => exact preserves_pure ()
  | cons a items ih =>
    obtain ⟨first, others⟩ := List.forall_mem_cons.mp each
    exact first.bind fun _ => ih others

end Step

end ModelForge
