import ModelForge.Proofs.Failing

/-! # Programs of basic steps

A program is put together from basic steps by sequences and handlers
(`ModelForge.Step.Program`); apart from its basic steps it only looks at the state, returns and
fails. So what every basic step is allowed to do is all that the program ever does, on the way as
well as at its end, and what every basic step keeps the program keeps
(`ModelForge.Step.Program.preserves`).
-/

namespace ModelForge

namespace Step

variable {ε σ α β : Type} {basic : (α : Type) → ExceptT ε (StateM σ) α → Prop} {inv : σ → Prop}

/-- A program of basic steps. What follows a step needs to be one for the results that the step can
give from states with the invariant. -/
inductive Program (basic : (α : Type) → ExceptT ε (StateM σ) α → Prop) (inv : σ → Prop) :
    {α : Type} → ExceptT ε (StateM σ) α → Prop where
  | step {α : Type} {x : ExceptT ε (StateM σ) α} (is : basic α x) : Program basic inv x
  | pure {α : Type} (a : α) : Program basic inv (Pure.pure a : ExceptT ε (StateM σ) α)
  | throw {α : Type} (e : ε) :
      Program basic inv (MonadExcept.throw e : ExceptT ε (StateM σ) α)
  | get : Program basic inv (MonadState.get : ExceptT ε (StateM σ) σ)
  | bind {α β : Type} {x : ExceptT ε (StateM σ) α} {f : α → ExceptT ε (StateM σ) β}
      (first : Program basic inv x)
      (next : ∀ s a t, inv s → x.run.run s = (.ok a, t) → Program basic inv (f a)) :
      Program basic inv (x >>= f)
  | tryCatch {α : Type} {x : ExceptT ε (StateM σ) α} {handler : ε → ExceptT ε (StateM σ) α}
      (tried : Program basic inv x) (handled : ∀ e, Program basic inv (handler e)) :
      Program basic inv (MonadExcept.tryCatch x handler)

namespace Program

/-- What every basic step keeps the program keeps. -/
theorem preserves {P : σ → Prop} {x : ExceptT ε (StateM σ) α} (program : Program basic inv x)
    (holds_inv : ∀ s, P s → inv s)
    (each : ∀ (α : Type) (x : ExceptT ε (StateM σ) α), basic α x → Preserves P (fun _ => True) x) :
    Preserves P (fun _ => True) x := by
  induction program with
  | step is => exact each _ _ is
  | pure a => exact preserves_pure a
  | throw e => exact preserves_throw trivial
  | get =>
    intro s holds
    exact ⟨holds, Result.failsOnly_ok s⟩
  | bind _ _ first next =>
    exact first.bind_of_ok fun s a t holds ran => next s a t (holds_inv s holds) ran
  | tryCatch _ _ tried handled => exact tried.tryCatch handled

/-- A program may change its result. -/
theorem map {x : ExceptT ε (StateM σ) α} (program : Program basic inv x) (f : α → β) :
    Program basic inv (x >>= fun a => Pure.pure (f a)) :=
  program.bind fun _ a _ _ _ => .pure (f a)

/-- Running a program for each item of a list is a program. -/
theorem mapM {f : α → ExceptT ε (StateM σ) β} {items : List α}
    (each : ∀ a ∈ items, Program basic inv (f a)) : Program basic inv (items.mapM f) := by
  induction items with
  | nil => exact .pure []
  | cons a items ih =>
    obtain ⟨first, others⟩ := List.forall_mem_cons.mp each
    rw [List.mapM_cons]
    exact first.bind fun _ b _ _ _ => (ih others).map _

/-- Running a program without results for each item of a list is a program. -/
theorem forM {f : α → ExceptT ε (StateM σ) Unit} {items : List α}
    (each : ∀ a ∈ items, Program basic inv (f a)) : Program basic inv (items.forM f) := by
  induction items with
  | nil => exact .pure ()
  | cons a items ih =>
    obtain ⟨first, others⟩ := List.forall_mem_cons.mp each
    exact first.bind fun _ _ _ _ _ => ih others

end Program

end Step

end ModelForge
