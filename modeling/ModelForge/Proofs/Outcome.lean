import ModelForge.Proofs.Failing

/-! # How steps end

What a step comes to from states with some property: what holds of its result and of the state
after it, and what holds of its failure and of the state in which it fails. A sequence ends as its
last part does or fails as one of its parts (`ModelForge.Step.Triple.bind`), and a list fails at one
item after those before it were dealt with (`ModelForge.Step.Triple.mapM`).
-/

namespace ModelForge

namespace Step

variable {ε σ α β : Type} {pre : σ → Prop} {mid post : α → σ → Prop} {last : β → σ → Prop}
  {failed failed' : ε → σ → Prop} {x : ExceptT ε (StateM σ) α}

/-- How a step ends from states with a property. -/
def Triple (pre : σ → Prop) (post : α → σ → Prop) (failed : ε → σ → Prop)
    (x : ExceptT ε (StateM σ) α) : Prop :=
  ∀ s, pre s → (∀ a t, x.run.run s = (.ok a, t) → post a t) ∧
    ∀ e t, x.run.run s = (.error e, t) → failed e t

/-- What is known of all runs of a step gives a triple for it. -/
theorem triple_of_run {result : σ → Except ε α} {next : σ → σ}
    (run : ∀ s, x.run.run s = (result s, next s))
    (ok : ∀ s a, pre s → result s = .ok a → post a (next s))
    (error : ∀ s e, pre s → result s = .error e → failed e (next s)) :
    Triple pre post failed x := by
  intro s holds
  rw [run s]
  constructor
  · intro a t ended
    obtain ⟨done, rfl⟩ := Prod.mk.inj ended
    exact ok s a holds done
  · intro e t ended
    obtain ⟨fails, rfl⟩ := Prod.mk.inj ended
    exact error s e holds fails

theorem triple_pure {a : α} (holds : ∀ s, pre s → post a s) :
    Triple pre post failed (pure a : ExceptT ε (StateM σ) α) :=
  triple_of_run (fun _ => rfl) (fun s _ given same => Except.ok.inj same ▸ holds s given)
    fun _ _ _ no => nomatch no

theorem triple_throw {e : ε} (holds : ∀ s, pre s → failed e s) :
    Triple pre post failed (throw e : ExceptT ε (StateM σ) α) :=
  triple_of_run (fun _ => rfl) (fun _ _ _ no => nomatch no)
    fun s _ given same => Except.error.inj same ▸ holds s given

/-- A triple holds with more known before and less after. -/
theorem Triple.weaken {pre' : σ → Prop} {post' : α → σ → Prop} (yields : Triple pre post failed x)
    (before : ∀ s, pre' s → pre s) (ok : ∀ a t, post a t → post' a t)
    (error : ∀ e t, failed e t → failed' e t) : Triple pre' post' failed' x := by
  intro s holds
  obtain ⟨done, fails⟩ := yields s (before s holds)
  exact ⟨fun a t ended => ok a t (done a t ended), fun e t ended => error e t (fails e t ended)⟩

theorem Triple.fails (yields : Triple pre post failed x) (error : ∀ e t, failed e t → failed' e t) :
    Triple pre post failed' x := yields.weaken (fun _ => id) (fun _ _ => id) error

/-- What is known of no state in particular may be used all the time. -/
theorem triple_of_imp {p : Prop} (yields : p → Triple pre post failed x) :
    Triple (fun s => p ∧ pre s) post failed x := fun s holds => yields holds.1 s holds.2

/-- A step that keeps an invariant has it before and after, however it ends. -/
theorem Preserves.triple {inv : σ → Prop} {allowed : ε → Prop} (safe : Preserves inv allowed x) :
    Triple inv (fun _ => inv) (fun _ => inv) x := by
  intro s holds
  obtain ⟨kept, -⟩ := safe s holds
  constructor
  · intro a t ended
    rwa [ended] at kept
  · intro e t ended
    rwa [ended] at kept

/-- Triples of steps one after the other fit together at what holds in between. -/
theorem Triple.bind {f : α → ExceptT ε (StateM σ) β} (first : Triple pre mid failed x)
    (next : ∀ a, Triple (mid a) last failed (f a)) : Triple pre last failed (x >>= f) := by
  intro s holds
  obtain ⟨done, fails⟩ := first s holds
  constructor
  · intro b u ended
    obtain ⟨a, t, ran, rest⟩ := run_bind_eq_ok.mp ended
    exact (next a t (done a t ran)).1 b u rest
  · intro e u ended
    rcases run_bind_eq_error.mp ended with stopped | ⟨a, t, ran, rest⟩
    · exact fails e u stopped
    · exact (next a t (done a t ran)).2 e u rest

/-- A step that reads the state goes on knowing what held of it. -/
theorem Triple.get_bind {f : σ → ExceptT ε (StateM σ) β}
    (next : ∀ s, pre s → Triple pre last failed (f s)) : Triple pre last failed (get >>= f) := by
  intro s holds
  rw [run_bind_of_ok (run_get s)]
  exact next s holds s holds

/-- A handler starts where the failing step ended. -/
theorem Triple.tryCatch {handler : ε → ExceptT ε (StateM σ) α} (tried : Triple pre post failed x)
    (handled : ∀ e, Triple (failed e) post failed' (handler e)) :
    Triple pre post failed' (tryCatch x handler) := by
  intro s holds
  obtain ⟨done, fails⟩ := tried s holds
  rcases ran : x.run.run s with ⟨result, t⟩
  cases result with
  | ok a =>
    rw [run_tryCatch_of_ok ran]
    refine ⟨fun b u ended => ?_, fun e u ended => (nomatch ended)⟩
    cases ended
    exact done a t ran
  | error e =>
    rw [run_tryCatch_of_error ran]
    exact handled e t (fails e t ran)

/-- A list is dealt with item by item. What is said after some items holds before the next one; at
the item that fails it is known which were dealt with. -/
theorem Triple.mapM (dealt : List α → σ → Prop) (failing : List α → α → ε → σ → Prop)
    {f : α → ExceptT ε (StateM σ) β} (items : List α)
    (each : ∀ done a, Triple (dealt done) (fun _ => dealt (done ++ [a])) (failing done a) (f a)) :
    Triple (dealt []) (fun _ => dealt items)
      (fun e s => ∃ done a others, items = done ++ a :: others ∧ failing done a e s)
      (items.mapM f) := by
  -- The induction is on the items still to come, behind those that were dealt with.
  suffices rest : ∀ done, Triple (dealt done) (fun _ => dealt (done ++ items))
      (fun e s => ∃ more a others, items = more ++ a :: others ∧ failing (done ++ more) a e s)
      (items.mapM f) by
    simpa only [List.nil_append] using rest []
  induction items with
  | nil =>
    intro done
    exact triple_pure fun s holds => by rwa [List.append_nil]
  | cons a items ih =>
    intro done
    rw [List.mapM_cons]
    refine ((each done a).fails ?_).bind fun b => ?_
    · intro e s fails
      exact ⟨[], a, items, rfl, by rwa [List.append_nil]⟩
    · refine ((ih (done ++ [a])).fails ?_).bind fun bs => triple_pure ?_
      · rintro e s ⟨more, c, others, same, fails⟩
        refine ⟨a :: more, c, others, by rw [same, List.cons_append], ?_⟩
        rwa [List.append_assoc, List.singleton_append] at fails
      · intro s holds
        rwa [List.append_assoc, List.singleton_append] at holds

end Step

end ModelForge
