import Mathlib.Data.Fintype.Card
import Mathlib.Data.List.Chain
import Mathlib.Data.List.Nodup
import Mathlib.Data.List.Pairwise
import ModelForge.Proofs.Graph.Adding
import ModelForge.Proofs.Step

/-! # The life cycle over whole runs

A graph may be called any number of times to apply an event, to add an element or to drop all of
them, and any of these calls may fail. Every event leads further from the start
(`ModelForge.GraphState.before_of_next`), so what each call keeps
(`ModelForge.Graph.ConsistentHistory`) bounds the history of every run. A failing call changes
nothing, and an end state is never left (`ModelForge.Graph.lifeCycle_of_calls`).
-/

namespace ModelForge

namespace GraphState

variable {a b c : GraphState}

/-- Some event leads from one state to the other. -/
def Next (a b : GraphState) : Prop := ∃ event, a.next? event = some b

/-- How far a state lies from the start. -/
def rank : GraphState → Nat
  | notLoaded => 0
  | cacheHit | cacheMiss => 1
  | rebuilding => 2
  | ready | failed => 3

theorem rank_lt (a : GraphState) : a.rank < 4 := by
  cases a <;> decide

/-- Where one state may stand before the other in a history. Between a served cache and rebuilding
no other state has a place. -/
def Before (a b : GraphState) : Prop :=
  a.rank < b.rank ∧ ¬(a = cacheHit ∧ b = rebuilding)

/-- An event leads to a state of higher rank. -/
theorem before_of_next (next : Next a b) : Before a b := by
  obtain ⟨event, led⟩ := next
  cases a <;> cases event <;> cases led <;> exact ⟨by decide, by decide⟩

theorem Before.trans (first : Before a b) (second : Before b c) : Before a c := by
  refine ⟨first.1.trans second.1, ?_⟩
  rintro ⟨rfl, rfl⟩
  obtain ⟨above, -⟩ := first
  obtain ⟨below, -⟩ := second
  simp only [rank] at above below
  omega

instance : Trans Before Before Before := ⟨Before.trans⟩

/-- No event leads on from a ready or a failed graph. -/
theorem not_next_of_ended (ended : a = ready ∨ a = failed) (event : GraphEvent) :
    a.next? event = none := by
  rcases ended with rfl | rfl <;> rfl

/-- A graph that is ready or failed takes no elements. -/
theorem not_isLoading_of_ended (ended : a = ready ∨ a = failed) : a.isLoading = false := by
  rcases ended with rfl | rfl <;> rfl

end GraphState

/-- A call that changes a graph, or fails. -/
inductive GraphCall where
  | apply (event : GraphEvent)
  | add (e : Element)
  | reset

namespace GraphCall

/-- A change of a graph in place. What is assigned before a failure stays. -/
abbrev Change := ExceptT Failure (StateM Graph)

/-- Puts a graph in place, or fails. -/
def assign (result : Except Failure Graph) : Change Unit :=
  match result with
  | .ok g => set g
  | .error f => throw f

/-- A call made to the graph in place, one assignment after the other. -/
def perform : GraphCall → Change Unit
  | apply event => do
    let g ← get
    match g.state.next? event with
    | none => throw (.transition g.state event)
    | some state =>
      set { g with state := state }
      let g ← get
      set { g with history := g.history ++ [g.state] }
  | add e => do assign ((← get).add e)
  | reset => do assign (← get).reset

/-- The graph after some calls, the failing ones included. -/
def after (calls : List GraphCall) (g : Graph) : Graph :=
  calls.foldl (fun g c => ((perform c).run.run g).2) g

variable {g g' : Graph} {c : GraphCall} {f : Failure}

theorem after_cons (c : GraphCall) (calls : List GraphCall) (g : Graph) :
    after (c :: calls) g = after calls ((perform c).run.run g).2 := rfl

/-- A call that fails leaves the graph as it is. -/
theorem run_assign (result : Except Failure Graph) (g : Graph) :
    (assign result).run.run g =
      (result.map fun _ => (), result.toOption.getD g) := by
  cases result <;> rfl

/-- The graph that a call makes of another one. -/
def result (g : Graph) : GraphCall → Except Failure Graph
  | apply event => g.apply event
  | add e => g.add e
  | reset => g.reset

/-- In place a call comes to what it makes of the graph, and to nothing if it fails. -/
theorem run_perform (c : GraphCall) (g : Graph) :
    (perform c).run.run g = ((result g c).map fun _ => (), (result g c).toOption.getD g) := by
  cases c with
  | apply event =>
    unfold perform
    rw [Step.run_bind_of_ok (Step.run_get g)]
    change _ = ((g.apply event).map fun _ => (), (g.apply event).toOption.getD g)
    unfold Graph.apply
    cases g.state.next? event with
    | none => rfl
    | some state => rfl
  | add e =>
    unfold perform
    rw [Step.run_bind_of_ok (Step.run_get g)]
    exact run_assign _ _
  | reset =>
    unfold perform
    rw [Step.run_bind_of_ok (Step.run_get g)]
    exact run_assign _ _

/-- A call that fails changes nothing. -/
theorem unchanged_of_error (failed : (perform c).run.run g = (.error f, g')) : g' = g := by
  rw [run_perform] at failed
  cases made : result g c with
  | ok g₁ =>
    rw [made] at failed
    cases failed
  | error e =>
    rw [made] at failed
    cases failed
    rfl

/-- A call either changes nothing or comes to what it makes of the graph. -/
theorem perform_cases (c : GraphCall) (g : Graph) :
    ((perform c).run.run g).2 = g ∨ result g c = .ok ((perform c).run.run g).2 := by
  rw [run_perform]
  cases made : result g c with
  | ok g₁ => exact .inr rfl
  | error e => exact .inl rfl

end GraphCall

namespace Graph

open GraphCall (perform after)

variable {g g' : Graph}

/-- What is true of a graph at any time of its life. -/
structure ConsistentHistory (g : Graph) : Prop where
  last : g.history.getLast? = some g.state
  linked : g.history.IsChain GraphState.Next

theorem consistentHistory_new (s : RepositorySet) : ConsistentHistory (new s) := ⟨rfl, .singleton _⟩

/-- An event keeps the history consistent. -/
theorem consistentHistory_of_apply {event : GraphEvent} (lived : ConsistentHistory g)
    (applied : g.apply event = .ok g') : ConsistentHistory g' := by
  unfold apply at applied
  split at applied
  · next state next =>
    cases applied
    refine ⟨List.getLast?_concat, List.isChain_append.mpr ⟨lived.linked, .singleton _, ?_⟩⟩
    intro a last b first
    rw [lived.last] at last
    cases last
    cases first
    exact ⟨event, next⟩
  · cases applied

/-- Adding and dropping elements is no event. -/
theorem consistentHistory_of_same (lived : ConsistentHistory g) (state : g'.state = g.state)
    (history : g'.history = g.history) : ConsistentHistory g' :=
  ⟨by rw [history, state, lived.last], by rw [history]; exact lived.linked⟩

/-- Dropping the elements keeps the history consistent. -/
theorem consistentHistory_of_reset (lived : ConsistentHistory g) (dropped : g.reset = .ok g') :
    ConsistentHistory g' := by
  unfold reset at dropped
  split at dropped
  · cases dropped
    exact consistentHistory_of_same lived rfl rfl
  · cases dropped

/-- Every call that succeeds keeps the history consistent. -/
theorem consistentHistory_of_result {c : GraphCall} (lived : ConsistentHistory g)
    (made : c.result g = .ok g') : ConsistentHistory g' := by
  cases c with
  | apply event => exact consistentHistory_of_apply lived made
  | add e =>
    obtain ⟨-, -, grows⟩ := new_of_add made
    exact consistentHistory_of_same lived grows.state grows.history
  | reset => exact consistentHistory_of_reset lived made

/-- Any sequence of calls keeps the history consistent, those that fail included. -/
theorem consistentHistory_after (calls : List GraphCall) (lived : ConsistentHistory g) :
    ConsistentHistory (after calls g) := by
  induction calls generalizing g with
  | nil => exact lived
  | cons c calls ih =>
    rw [GraphCall.after_cons]
    rcases GraphCall.perform_cases c g with same | made
    · rw [same]
      exact ih lived
    · exact ih (consistentHistory_of_result lived made)

/-- In an end state every call fails. -/
theorem result_of_ended (ended : g.state = .ready ∨ g.state = .failed) (c : GraphCall) :
    ∃ f, c.result g = .error f := by
  have frozen : ¬g.state.isLoading = true :=
    Bool.eq_false_iff.mp (GraphState.not_isLoading_of_ended ended)
  cases c with
  | apply event =>
    refine ⟨.transition g.state event, ?_⟩
    change g.apply event = _
    unfold apply
    rw [GraphState.not_next_of_ended ended]
  | add e => exact ⟨_, if_neg frozen⟩
  | reset => exact ⟨_, if_neg frozen⟩

/-- No call changes a graph that is ready or has failed. -/
theorem after_of_ended (ended : g.state = .ready ∨ g.state = .failed) (calls : List GraphCall) :
    after calls g = g := by
  induction calls with
  | nil => rfl
  | cons c calls ih =>
    obtain ⟨f, failed⟩ := result_of_ended ended c
    rw [GraphCall.after_cons, GraphCall.run_perform, failed]
    exact ih

variable {history : List GraphState}

/-- States of a history have ascending ranks. -/
theorem pairwise_before (linked : history.IsChain GraphState.Next) :
    history.Pairwise GraphState.Before :=
  (linked.imp fun _ _ => GraphState.before_of_next).pairwise

/-- No state comes twice in a history. -/
theorem nodup_history (linked : history.IsChain GraphState.Next) : history.Nodup :=
  (pairwise_before linked).imp fun before same => by
    rw [same] at before
    exact lt_irrefl _ before.1

/-- The states of a history have different ranks, of which there are four. -/
theorem length_history (linked : history.IsChain GraphState.Next) : history.length ≤ 4 := by
  have ranks : (history.map fun a => (⟨a.rank, a.rank_lt⟩ : Fin 4)).Nodup := by
    refine List.pairwise_map.mpr ((pairwise_before linked).imp fun before same => ?_)
    exact before.1.ne (congrArg Fin.val same)
  have few := ranks.length_le_card
  rwa [List.length_map, Fintype.card_fin] at few

/-- A history that has seen the cache serve has no rebuilding. -/
theorem not_rebuilding_of_cacheHit (linked : history.IsChain GraphState.Next) :
    ¬(.rebuilding ∈ history ∧ .cacheHit ∈ history) := by
  rintro ⟨rebuilt, hit⟩
  have symmetric : Std.Symm fun a b => GraphState.Before a b ∨ GraphState.Before b a :=
    ⟨fun _ _ => Or.symm⟩
  have comparable : history.Pairwise fun a b => GraphState.Before a b ∨ GraphState.Before b a :=
    (pairwise_before linked).imp Or.inl
  rcases comparable.forall rebuilt hit (by decide) with ⟨above, -⟩ | ⟨-, never⟩
  · exact absurd above (by decide)
  · exact never ⟨rfl, rfl⟩

/-- Over every run of calls on a new graph, the failing ones included: the history ends in the
state and follows the events, at most four states long; it holds rebuilding at most once, and never
beside a served cache; elements are kept by their paths. A call that fails changes nothing, and an
end state is never left. -/
theorem lifeCycle_of_calls (s : RepositorySet) (calls : List GraphCall) :
    (after calls (new s)).history.getLast? = some (after calls (new s)).state ∧
      (after calls (new s)).history.IsChain GraphState.Next ∧
      (after calls (new s)).history.length ≤ 4 ∧
      (after calls (new s)).history.count .rebuilding ≤ 1 ∧
      ¬(.rebuilding ∈ (after calls (new s)).history ∧
        .cacheHit ∈ (after calls (new s)).history) ∧
      (∀ path e, (after calls (new s)).get? path = some e ↔
        e ∈ (after calls (new s)).elements ∧ e.path = path) ∧
      (∀ c f g', (perform c).run.run (after calls (new s)) = (.error f, g') →
        g' = after calls (new s)) ∧
      ((after calls (new s)).state = .ready ∨ (after calls (new s)).state = .failed →
        ∀ more, after more (after calls (new s)) = after calls (new s)) := by
  obtain ⟨last, linked⟩ := consistentHistory_after calls (consistentHistory_new s)
  have once : (after calls (new s)).history.count .rebuilding ≤ 1 :=
    List.nodup_iff_count_le_one.mp (nodup_history linked) _
  exact ⟨last, linked, length_history linked, once, not_rebuilding_of_cacheHit linked,
    fun _ _ => get?_eq_some, fun _ _ _ => GraphCall.unchanged_of_error, after_of_ended⟩

end Graph

end ModelForge
