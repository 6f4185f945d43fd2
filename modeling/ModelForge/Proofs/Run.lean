import ModelForge.Proofs.Files.ChangedOnlyAt
import ModelForge.Run

/-! # Steps of a run

A run changes a disk and writes a log. What a step does to the disk is told apart from the log
(`ModelForge.Run.RunsTo`): a step that only writes to the log is passed over
(`ModelForge.Run.RunsTo.after`), and an action on files keeps within the places that it keeps within
on a disk alone (`ModelForge.Run.keepsToPlaces_files`).
-/

namespace ModelForge

namespace Run

open Files (Location)

variable {α β : Type} {x : Run α} {next : α → Run β} {d d₀ d' : Disk} {w w' : World} {a : α}
  {f : Failure} {result : Except Failure α} {last : Except Failure β}
  {dirs places : Location → Prop}

theorem run_log (entry : StateM Log α) (w : World) :
    (log entry).run.run w = (.ok (entry.run w.log).1, { w with log := (entry.run w.log).2 }) := rfl

theorem run_orThrow (result : Except Failure α) (w : World) :
    (orThrow result).run.run w = (result, w) := by
  cases result <;> rfl

/-- An action on files changes the disk only, and its faults become failures. -/
theorem run_files (action : Files.Action α) (w : World) :
    (files action).run.run w = ((action.run.run w.disk).1.mapError Failure.file,
      { w with disk := (action.run.run w.disk).2 }) := by
  unfold files
  rw [Step.run_bind_of_ok (Step.run_get w)]
  rcases action.run.run w.disk with ⟨result, d⟩
  cases result <;> rfl

/-- How an action on files succeeds in a run. -/
theorem perform_files_eq_ok {action : Files.Action α} : perform (files action) w = (.ok a, w') ↔
    ∃ d, action.run.run w.disk = (.ok a, d) ∧ w' = { w with disk := d } := by
  unfold perform
  rw [run_files]
  rcases action.run.run w.disk with ⟨result, d⟩
  cases result with
  | ok b =>
    constructor
    · intro same
      cases same
      exact ⟨d, rfl, rfl⟩
    · rintro ⟨_, same, rfl⟩
      cases same
      rfl
  | error f =>
    constructor
    · intro no
      cases no
    · rintro ⟨_, no, _⟩
      cases no

/-- How an action on files fails in a run. -/
theorem perform_files_eq_error {action : Files.Action α} :
    perform (files action) w = (.error f, w') ↔ ∃ fault d,
      action.run.run w.disk = (.error fault, d) ∧ f = .file fault ∧
        w' = { w with disk := d } := by
  unfold perform
  rw [run_files]
  rcases action.run.run w.disk with ⟨result, d⟩
  cases result with
  | ok a => exact ⟨fun no => (nomatch no), fun ⟨_, _, no, _⟩ => (nomatch no)⟩
  | error fault =>
    constructor
    · intro same
      cases same
      exact ⟨fault, d, rfl, rfl, rfl⟩
    · rintro ⟨_, _, same, rfl, rfl⟩
      cases same
      rfl

/-! ## What a step comes to -/

/-- From one disk a step comes to a result and to another disk, with some log before and after. -/
def RunsTo (step : Run α) (d : Disk) (result : Except Failure α) (d' : Disk) : Prop :=
  ∃ l l', perform step ⟨d, l⟩ = (result, ⟨d', l'⟩)

/-- A run from a world leads from its disk to the disk afterwards. -/
theorem runsTo_of_perform (ran : perform x w = (result, w')) : RunsTo x w.disk result w'.disk :=
  ⟨w.log, w'.log, ran⟩

theorem RunsTo.pure (leads : RunsTo (Pure.pure a) d result d') : result = .ok a ∧ d' = d := by
  obtain ⟨l, l', ran⟩ := leads
  cases ran
  exact ⟨rfl, rfl⟩

theorem RunsTo.orThrow {given : Except Failure α} (leads : RunsTo (orThrow given) d result d') :
    result = given ∧ d' = d := by
  obtain ⟨l, l', ran⟩ := leads
  unfold perform at ran
  rw [run_orThrow] at ran
  cases ran
  exact ⟨rfl, rfl⟩

/-- A sequence fails in its first part, or it goes on from there. -/
theorem RunsTo.bind (leads : RunsTo (x >>= next) d last d') :
    (∃ f, last = .error f ∧ RunsTo x d (.error f) d') ∨
      ∃ a d₁, RunsTo x d (.ok a) d₁ ∧ RunsTo (next a) d₁ last d' := by
  obtain ⟨l, l', ran⟩ := leads
  rcases first : perform x ⟨d, l⟩ with ⟨result, w⟩
  cases result with
  | error f =>
    have failed := (Step.run_bind_of_error first next).symm.trans ran
    cases failed
    exact .inl ⟨f, rfl, l, l', first⟩
  | ok a =>
    have rest := (Step.run_bind_of_ok first next).symm.trans ran
    exact .inr ⟨a, w.disk, ⟨l, w.log, first⟩, w.log, l', rest⟩

/-- A run that begins with a given result fails with it or goes on from its value. -/
theorem RunsTo.orThrow_bind {given : Except Failure α}
    (leads : RunsTo (Run.orThrow given >>= next) d last d') :
    (∃ f, given = .error f ∧ last = .error f ∧ d' = d) ∨
      ∃ a, given = .ok a ∧ RunsTo (next a) d last d' := by
  rcases leads.bind with ⟨f, failed, first⟩ | ⟨a, d₁, first, rest⟩
  · obtain ⟨same, kept⟩ := first.orThrow
    exact .inl ⟨f, same.symm, failed, kept⟩
  · obtain ⟨same, rfl⟩ := first.orThrow
    exact .inr ⟨a, same.symm, rest⟩

/-- A step that looks at the disk goes on with what it sees. -/
theorem RunsTo.get {next : World → Run β} (leads : RunsTo (get >>= next) d last d') :
    ∃ l, RunsTo (next ⟨d, l⟩) d last d' := by
  obtain ⟨l, l', ran⟩ := leads
  exact ⟨l, l, l', (Step.run_bind_of_ok (Step.run_get _) next).symm.trans ran⟩

/-- A guarded step succeeds, or its handler goes on from where it failed. -/
theorem RunsTo.tryCatch {handler : Failure → Run α}
    (leads : RunsTo (tryCatch x handler) d result d') :
    (∃ a, result = .ok a ∧ RunsTo x d (.ok a) d') ∨
      ∃ f d₁, RunsTo x d (.error f) d₁ ∧ RunsTo (handler f) d₁ result d' := by
  obtain ⟨l, l', ran⟩ := leads
  rcases first : perform x ⟨d, l⟩ with ⟨outcome, w⟩
  cases outcome with
  | error f =>
    have handled := (Step.run_tryCatch_of_error first handler).symm.trans ran
    exact .inr ⟨f, w.disk, ⟨l, w.log, first⟩, w.log, l', handled⟩
  | ok a =>
    have done := (Step.run_tryCatch_of_ok first handler).symm.trans ran
    cases done
    exact .inl ⟨a, rfl, l, l', first⟩

/-- What a step keeps on a disk. -/
theorem RunsTo.kept {P : Disk → Prop} {allowed : Failure → Prop} (leads : RunsTo x d result d')
    (safe : Step.Preserves (fun w => P w.disk) allowed x) (holds : P d) : P d' := by
  obtain ⟨l, l', ran⟩ := leads
  obtain ⟨kept, -⟩ := safe ⟨d, l⟩ holds
  rw [show x.run.run ⟨d, l⟩ = _ from ran] at kept
  exact kept

/-! ## Steps that only log -/

/-- A step that succeeds and leaves the disk alone. -/
def LeavesDisk (x : Run α) : Prop :=
  ∀ d result d', RunsTo x d result d' → d' = d ∧ ∃ a, result = .ok a

theorem leavesDisk_log (entry : StateM Log α) : LeavesDisk (log entry) := by
  rintro d result d' ⟨l, l', ran⟩
  cases ran
  exact ⟨rfl, _, rfl⟩

theorem leavesDisk_pure (a : α) : LeavesDisk (Pure.pure a) := by
  intro d result d' leads
  obtain ⟨same, kept⟩ := leads.pure
  exact ⟨kept, a, same⟩

/-- A step after one that only logs starts from the same disk. -/
theorem RunsTo.after (leads : RunsTo (x >>= next) d last d') (quiet : LeavesDisk x) :
    ∃ a, RunsTo (next a) d last d' := by
  rcases leads.bind with ⟨f, -, failed⟩ | ⟨a, d₁, done, rest⟩
  · obtain ⟨-, a, no⟩ := quiet _ _ _ failed
    cases no
  · obtain ⟨rfl, -⟩ := quiet _ _ _ done
    exact ⟨a, rest⟩

/-- Runs one after the other leave the disk alone if each of them does. -/
theorem LeavesDisk.bind (first : LeavesDisk x) (rest : ∀ a, LeavesDisk (next a)) :
    LeavesDisk (x >>= next) := by
  intro d result d' leads
  obtain ⟨a, leads⟩ := leads.after first
  exact rest a _ _ _ leads

/-! ## Keeping within places -/

/-- From a disk that keeps within some places a step ends in one. -/
abbrev KeepsToPlaces (dirs places : Location → Prop) (d₀ : Disk) (x : Run α) : Prop :=
  Step.Preserves (fun w => Disk.ChangedOnlyAt dirs places d₀ w.disk) (fun _ => True) x

theorem keepsToPlaces_orThrow (result : Except Failure α) :
    KeepsToPlaces dirs places d₀ (orThrow result) := by
  refine Step.preserves_of_kept fun w within => ?_
  rw [run_orThrow]
  exact within

/-- Inside a run, an action on files keeps to its places. -/
theorem keepsToPlaces_files {action : Files.Action α}
    (stays : action.KeepsToPlaces dirs places d₀) :
    KeepsToPlaces dirs places d₀ (files action) := by
  refine Step.preserves_of_kept fun w within => ?_
  rw [run_files]
  exact (stays w.disk within).1

end Run

end ModelForge
