import Mathlib.Data.List.Forall2

/-! # Steps that change a state and may fail

Writing, compiling, preparing and running are all steps of one kind: each takes a state to a later
one and gives a result or a failure. A sequence of steps succeeds exactly when its parts do
(`ModelForge.Step.run_bind_eq_ok`), so a run is taken apart step by step. Results without a state
are taken apart in the same way (`ModelForge.Result.bind_eq_ok`).
-/

namespace ModelForge

namespace Result

variable {ε α β : Type}

/-- Computations one after the other succeed exactly if each of them does. -/
theorem bind_eq_ok {x : Except ε α} {f : α → Except ε β} {b : β} :
    x >>= f = .ok b ↔ ∃ a, x = .ok a ∧ f a = .ok b := by
  cases x with
  | error e =>
    constructor
    · intro failed
      cases failed
    · rintro ⟨_, no, _⟩
      cases no
  | ok a => exact ⟨fun same => ⟨a, rfl, same⟩, fun ⟨_, is, same⟩ => by cases is; exact same⟩

theorem toOption_eq_some {x : Except ε α} {a : α} : x.toOption = some a ↔ x = .ok a := by
  cases x with
  | error e => exact ⟨fun no => (nomatch no), fun no => (nomatch no)⟩
  | ok b => exact ⟨fun same => congrArg Except.ok (Option.some.inj same),
      fun same => congrArg some (Except.ok.inj same)⟩

theorem exists_of_isSome {x : Except ε α} (known : x.toOption.isSome = true) : ∃ a, x = .ok a := by
  obtain ⟨a, same⟩ := Option.isSome_iff_exists.mp known
  exact ⟨a, toOption_eq_some.mp same⟩

/-- A list of results is a result exactly when each of them is. -/
theorem mapM_eq_ok {f : α → Except ε β} {items : List α} {results : List β} :
    items.mapM f = .ok results ↔ List.Forall₂ (fun a b => f a = .ok b) items results := by
  induction items generalizing results with
  | nil =>
    rw [List.mapM_nil, List.forall₂_nil_left_iff]
    exact ⟨fun same => by cases same; rfl, fun same => by rw [same]; rfl⟩
  | cons a items ih =>
    rw [List.mapM_cons, bind_eq_ok]
    constructor
    · rintro ⟨b, first, others⟩
      obtain ⟨bs, tail, made⟩ := bind_eq_ok.mp others
      cases made
      exact .cons first (ih.mp tail)
    · intro each
      obtain ⟨b, bs, first, tail, rfl⟩ := List.forall₂_cons_left_iff.mp each
      exact ⟨b, first, bind_eq_ok.mpr ⟨bs, ih.mpr tail, rfl⟩⟩

/-- Each item of a list has its result among the results. -/
theorem exists_of_mapM {f : α → Except ε β} {items : List α} {results : List β}
    (each : items.mapM f = .ok results) {a : α} (member : a ∈ items) :
    ∃ b ∈ results, f a = .ok b := by
  have pairs := mapM_eq_ok.mp each
  clear each
  induction pairs with
  | nil => cases member
  | cons first _ ih =>
    rcases List.mem_cons.mp member with rfl | behind
    · exact ⟨_, List.mem_cons_self, first⟩
    · obtain ⟨b, found, same⟩ := ih behind
      exact ⟨b, List.mem_cons_of_mem _ found, same⟩

/-- Each result comes from an item of the list. -/
theorem exists_of_mem_results {f : α → Except ε β} {items : List α} {results : List β}
    (each : items.mapM f = .ok results) {b : β} (member : b ∈ results) :
    ∃ a ∈ items, f a = .ok b := by
  have pairs := mapM_eq_ok.mp each
  clear each
  induction pairs with
  | nil => cases member
  | cons first _ ih =>
    rcases List.mem_cons.mp member with rfl | behind
    · exact ⟨_, List.mem_cons_self, first⟩
    · obtain ⟨a, found, same⟩ := ih behind
      exact ⟨a, List.mem_cons_of_mem _ found, same⟩

/-- A list has results if each item has one. -/
theorem mapM_of_each {f : α → Except ε β} {items : List α}
    (each : ∀ a ∈ items, ∃ b, f a = .ok b) : ∃ results, items.mapM f = .ok results := by
  induction items with
  | nil => exact ⟨[], rfl⟩
  | cons a items ih =>
    obtain ⟨b, first⟩ := each a List.mem_cons_self
    obtain ⟨bs, others⟩ := ih fun c member => each c (List.mem_cons_of_mem a member)
    exact ⟨b :: bs, mapM_eq_ok.mpr (.cons first (mapM_eq_ok.mp others))⟩

theorem mapM_congr {f h : α → Except ε β} {items : List α} (same : ∀ a ∈ items, f a = h a) :
    items.mapM f = items.mapM h := by
  induction items with
  | nil => rfl
  | cons a items ih =>
    rw [List.mapM_cons, List.mapM_cons, same a List.mem_cons_self,
      ih fun b member => same b (List.mem_cons_of_mem a member)]

/-- All checks of a list pass exactly when each of them does. -/
theorem forM_eq_ok {f : α → Except ε Unit} {items : List α} :
    items.forM f = .ok () ↔ ∀ a ∈ items, f a = .ok () := by
  induction items with
  | nil => exact ⟨fun _ _ none => (nomatch none), fun _ => rfl⟩
  | cons a items ih =>
    change (f a >>= fun _ => items.forM f) = _ ↔ _
    rw [bind_eq_ok, List.forall_mem_cons, ih]
    exact ⟨fun ⟨_, first, others⟩ => ⟨first, others⟩, fun ⟨first, others⟩ => ⟨(), first, others⟩⟩

end Result

namespace Step

variable {ε σ α β : Type}

@[simp]
theorem run_pure (a : α) (s : σ) : (pure a : ExceptT ε (StateM σ) α).run.run s = (.ok a, s) := rfl

@[simp]
theorem run_get (s : σ) : (get : ExceptT ε (StateM σ) σ).run.run s = (.ok s, s) := rfl

@[simp]
theorem run_set (s t : σ) : (set t : ExceptT ε (StateM σ) PUnit).run.run s = (.ok ⟨⟩, t) := rfl

/-- A run goes on from where its first step ended. -/
theorem run_bind_of_ok {x : ExceptT ε (StateM σ) α} {s t : σ} {a : α}
    (first : x.run.run s = (.ok a, t)) (f : α → ExceptT ε (StateM σ) β) :
    (x >>= f).run.run s = (f a).run.run t := by
  rw [ExceptT.run_bind, StateT.run_bind, first]
  rfl

/-- A run ends with the failure of its first step. -/
theorem run_bind_of_error {x : ExceptT ε (StateM σ) α} {s t : σ} {e : ε}
    (first : x.run.run s = (.error e, t)) (f : α → ExceptT ε (StateM σ) β) :
    (x >>= f).run.run s = (.error e, t) := by
  rw [ExceptT.run_bind, StateT.run_bind, first]
  rfl

/-- A sequence succeeds exactly when its first part does, and then the rest from there. -/
theorem run_bind_eq_ok {x : ExceptT ε (StateM σ) α} {f : α → ExceptT ε (StateM σ) β} {s u : σ}
    {b : β} : (x >>= f).run.run s = (.ok b, u) ↔
      ∃ a t, x.run.run s = (.ok a, t) ∧ (f a).run.run t = (.ok b, u) := by
  constructor
  · intro whole
    rcases first : x.run.run s with ⟨outcome, t⟩
    cases outcome with
    | error e =>
      rw [run_bind_of_error first] at whole
      cases whole
    | ok a =>
      rw [run_bind_of_ok first] at whole
      exact ⟨a, t, rfl, whole⟩
  · rintro ⟨a, t, first, second⟩
    rw [run_bind_of_ok first, second]

/-- A sequence fails exactly when its first part does, or the rest from where that ended. -/
theorem run_bind_eq_error {x : ExceptT ε (StateM σ) α} {f : α → ExceptT ε (StateM σ) β} {s u : σ}
    {e : ε} : (x >>= f).run.run s = (.error e, u) ↔
      x.run.run s = (.error e, u) ∨
        ∃ a t, x.run.run s = (.ok a, t) ∧ (f a).run.run t = (.error e, u) := by
  rcases first : x.run.run s with ⟨outcome, t⟩
  cases outcome with
  | error e' =>
    rw [run_bind_of_error first]
    refine ⟨fun same => .inl ?_, ?_⟩
    · cases same
      rfl
    · rintro (same | ⟨a, t', no, -⟩)
      · cases same
        rfl
      · cases no
  | ok a =>
    rw [run_bind_of_ok first]
    refine ⟨fun rest => .inr ⟨a, t, rfl, rest⟩, ?_⟩
    rintro (no | ⟨a', t', same, rest⟩)
    · cases no
    · cases same
      exact rest

/-- Taking a list step by step succeeds exactly when its first item does, and then the others from
there. -/
theorem run_mapM_cons_eq_ok {f : α → ExceptT ε (StateM σ) β} {a : α} {items : List α} {s u : σ}
    {results : List β} : ((a :: items).mapM f).run.run s = (.ok results, u) ↔
      ∃ b t bs, (f a).run.run s = (.ok b, t) ∧ (items.mapM f).run.run t = (.ok bs, u) ∧
        results = b :: bs := by
  rw [List.mapM_cons, run_bind_eq_ok]
  constructor
  · rintro ⟨b, t, first, others⟩
    obtain ⟨bs, u', tail, made⟩ := run_bind_eq_ok.mp others
    cases made
    exact ⟨b, t, bs, first, tail, rfl⟩
  · rintro ⟨b, t, bs, first, tail, rfl⟩
    exact ⟨b, t, first, run_bind_eq_ok.mpr ⟨bs, u, tail, rfl⟩⟩

/-- Taking a list step by step fails at one of its items, after those in front of it succeeded. -/
theorem exists_of_run_mapM_error {f : α → ExceptT ε (StateM σ) β} {items : List α} {s u : σ}
    {e : ε} (failed : (items.mapM f).run.run s = (.error e, u)) :
    ∃ before a behind results t, items = before ++ a :: behind ∧
      (before.mapM f).run.run s = (.ok results, t) ∧ (f a).run.run t = (.error e, u) := by
  induction items generalizing s with
  | nil => cases failed
  | cons a items ih =>
    rw [List.mapM_cons] at failed
    obtain first | ⟨b, t, first, rest⟩ := run_bind_eq_error.mp failed
    · exact ⟨[], a, items, [], s, rfl, rfl, first⟩
    obtain rest | ⟨bs, t', -, no⟩ := run_bind_eq_error.mp rest
    · obtain ⟨before, a', behind, results, t', same, done, last⟩ := ih rest
      exact ⟨a :: before, a', behind, b :: results, t', by rw [same]; rfl,
        run_mapM_cons_eq_ok.mpr ⟨b, t, results, first, done, rfl⟩, last⟩
    · cases no

theorem run_mapM_nil_eq_ok {f : α → ExceptT ε (StateM σ) β} {s u : σ} {results : List β} :
    (([] : List α).mapM f).run.run s = (.ok results, u) ↔ results = [] ∧ s = u := by
  rw [List.mapM_nil, run_pure, Prod.mk.injEq, Except.ok.injEq]
  exact and_congr_left' eq_comm

theorem exists_of_run {x : ExceptT ε (StateM σ) α} {s : σ} {a : α}
    (known : (x.run.run s).1.toOption = some a) : ∃ t, x.run.run s = (.ok a, t) := by
  rcases outcome : x.run.run s with ⟨result, t⟩
  rw [outcome] at known
  have done : result = .ok a := Result.toOption_eq_some.mp known
  exact ⟨t, by rw [done]⟩

/-- A handler has no part in a run that succeeds. -/
theorem run_tryCatch_of_ok {x : ExceptT ε (StateM σ) α} {s t : σ} {a : α}
    (done : x.run.run s = (.ok a, t)) (handler : ε → ExceptT ε (StateM σ) α) :
    (tryCatch x handler).run.run s = (.ok a, t) := by
  rw [ExceptT.run_tryCatch, StateT.run_bind, done]
  rfl

/-- A handler runs from where the failing step ended. -/
theorem run_tryCatch_of_error {x : ExceptT ε (StateM σ) α} {s t : σ} {e : ε}
    (failed : x.run.run s = (.error e, t)) (handler : ε → ExceptT ε (StateM σ) α) :
    (tryCatch x handler).run.run s = (handler e).run.run t := by
  rw [ExceptT.run_tryCatch, StateT.run_bind, failed]
  rfl

/-- A guarded step depends on what it comes to only. -/
theorem run_tryCatch_congr {x y : ExceptT ε (StateM σ) α} {s : σ}
    (same : x.run.run s = y.run.run s) (handler : ε → ExceptT ε (StateM σ) α) :
    (tryCatch x handler).run.run s = (tryCatch y handler).run.run s := by
  rcases ran : x.run.run s with ⟨result, t⟩
  cases result with
  | ok a => rw [run_tryCatch_of_ok ran, run_tryCatch_of_ok (same.symm.trans ran)]
  | error e => rw [run_tryCatch_of_error ran, run_tryCatch_of_error (same.symm.trans ran)]

end Step

end ModelForge
