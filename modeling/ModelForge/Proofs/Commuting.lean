import ModelForge.Proofs.Step

/-! # Steps that commute with a change of the state

A step commutes with a change of the state if it comes to the same result after the change, and to a
state that has changed in the same way. Sequences and lists of such steps commute with the change
(`ModelForge.Step.Commutes.bind`, `ModelForge.Step.Commutes.mapM`), so a procedure does as soon as
its parts do.
-/

namespace ModelForge

namespace Step

variable {ε σ α β : Type} {change : σ → σ} {x : ExceptT ε (StateM σ) α}
  {f : α → ExceptT ε (StateM σ) β} {s t : σ}

/-- A step makes no difference between a state and the changed one. -/
def Commutes (change : σ → σ) (x : ExceptT ε (StateM σ) α) : Prop :=
  ∀ s, x.run.run (change s) = ((x.run.run s).1, change (x.run.run s).2)

/-- How a step that commutes with a change runs from the changed state. -/
theorem Commutes.run {outcome : Except ε α} (commutes : Commutes change x)
    (ran : x.run.run s = (outcome, t)) : x.run.run (change s) = (outcome, change t) := by
  rw [commutes s, ran]

theorem commutes_pure (a : α) : Commutes change (pure a : ExceptT ε (StateM σ) α) := fun _ => rfl

theorem commutes_throw (e : ε) : Commutes change (throw e : ExceptT ε (StateM σ) α) := fun _ => rfl

/-- Steps one after the other commute with a change if each of them does. -/
theorem Commutes.bind (first : Commutes change x) (next : ∀ a, Commutes change (f a)) :
    Commutes change (x >>= f) := by
  intro s
  rcases ran : x.run.run s with ⟨outcome, t⟩
  cases outcome with
  | error e => rw [run_bind_of_error ran, run_bind_of_error (first.run ran)]
  | ok a => rw [run_bind_of_ok ran, run_bind_of_ok (first.run ran), next a t]

/-- A step with a handler commutes with a change if both do. -/
theorem Commutes.tryCatch {handler : ε → ExceptT ε (StateM σ) α} (tried : Commutes change x)
    (handled : ∀ e, Commutes change (handler e)) : Commutes change (tryCatch x handler) := by
  intro s
  rcases ran : x.run.run s with ⟨outcome, t⟩
  cases outcome with
  | error e => rw [run_tryCatch_of_error ran, run_tryCatch_of_error (tried.run ran), handled e t]
  | ok a => rw [run_tryCatch_of_ok ran, run_tryCatch_of_ok (tried.run ran)]

/-- A step that looks at the state first commutes with a change if what it goes on with does. -/
theorem commutes_get_bind {f : σ → ExceptT ε (StateM σ) β}
    (next : ∀ s, (f (change s)).run.run (change s) =
      (((f s).run.run s).1, change ((f s).run.run s).2)) : Commutes change (get >>= f) := by
  intro s
  rw [run_bind_of_ok (run_get s), run_bind_of_ok (run_get (change s))]
  exact next s

/-- Steps over a list commute with a change if the step for each item does. -/
theorem Commutes.mapM {items : List α} (each : ∀ a ∈ items, Commutes change (f a)) :
    Commutes change (items.mapM f) := by
  induction items with
  | nil => exact commutes_pure []
  | cons a items ih =>
    obtain ⟨first, others⟩ := List.forall_mem_cons.mp each
    rw [List.mapM_cons]
    exact first.bind fun b => (ih others).bind fun bs => commutes_pure (b :: bs)

/-- Steps without results over a list commute with a change if the step for each item does. -/
theorem Commutes.forM {f : α → ExceptT ε (StateM σ) Unit} {items : List α}
    (each : ∀ a ∈ items, Commutes change (f a)) : Commutes change (items.forM f) := by
  induction items with
  | nil => exact commutes_pure ()
  | cons a items ih =>
    obtain ⟨first, others⟩ := List.forall_mem_cons.mp each
    exact first.bind fun _ => ih others

end Step

end ModelForge
