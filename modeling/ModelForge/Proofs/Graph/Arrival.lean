import ModelForge.Proofs.Graph.LifeCycle
import ModelForge.Proofs.Plan.Selections

/-! # The order in which elements come

A graph keeps its elements ascending by path. A store that keeps them in the order in which they
came, and sorts them whenever they are listed, cannot be told from it: each call keeps both alike
(`ModelForge.Graph.holdsArrivals_of_perform`), so they list the same elements after every run of
calls (`ModelForge.Graph.elementsOf_after`). What is made of a ready graph therefore depends on the
elements it holds and not on how it was filled (`ModelForge.Graph.artifacts_eq_of_filled`).
-/

namespace ModelForge

/-- Elements in the order in which they came, in a graph that stands somewhere in its life. -/
structure Arrivals where
  state : GraphState
  elements : List Element

namespace Arrivals

/-- Nothing has come yet. -/
def start : Arrivals := ⟨.notLoaded, []⟩

/-- The arrivals after an event. An event that is not allowed changes nothing. -/
def apply (a : Arrivals) (event : GraphEvent) : Arrivals :=
  { a with state := (a.state.next? event).getD a.state }

/-- The arrivals with one element more, unless its path is taken. -/
def add (a : Arrivals) (e : Element) : Arrivals :=
  if a.state.isLoading = true ∧ e.path ∉ a.elements.map Element.path then
    { a with elements := a.elements ++ [e] }
  else a

/-- The arrivals without their elements. -/
def reset (a : Arrivals) : Arrivals :=
  if a.state.isLoading = true then { a with elements := [] } else a

/-- The arrivals after a call. A call that fails leaves them as they are. -/
def call (a : Arrivals) : GraphCall → Arrivals
  | .apply event => a.apply event
  | .add e => a.add e
  | .reset => a.reset

/-- The arrivals of some calls on a new graph. -/
def ofCalls (calls : List GraphCall) : Arrivals := calls.foldl call start

/-- The elements of a repository, or all, sorted by path. -/
def elementsOf (a : Arrivals) (name : Option String) : List Element :=
  (a.elements.mergeSort fun e e' => decide (e.path ≤ e'.path)).filter fun e =>
    name.all (e.repository == ·)

end Arrivals

namespace Graph

open GraphCall (perform after)

variable {g g' : Graph} {a a' : Arrivals}

/-- A graph that holds what has come, in an order of its own. -/
structure HoldsArrivals (g : Graph) (a : Arrivals) : Prop where
  state : g.state = a.state
  elements : g.elements.Perm a.elements

theorem holdsArrivals_new (s : RepositorySet) : HoldsArrivals (new s) .start := ⟨rfl, .refl _⟩

/-- Arrivals have distinct paths. -/
theorem HoldsArrivals.nodup (holds : HoldsArrivals g a) : a.elements.Nodup := by
  have paths := (holds.elements.map Element.path).nodup_iff.mp g.nodup_paths
  exact .of_map _ paths

/-- A path is new to the graph if and only if nothing has come under it. -/
theorem HoldsArrivals.get?_eq_none (holds : HoldsArrivals g a) {path : String} :
    g.get? path = none ↔ path ∉ a.elements.map Element.path := by
  rw [Graph.get?_eq_none, (holds.elements.map Element.path).mem_iff]

/-- An event takes a graph and the order of arrivals to matching ones. -/
theorem HoldsArrivals.apply (holds : HoldsArrivals g a) (event : GraphEvent) :
    HoldsArrivals (((GraphCall.apply event).result g).toOption.getD g) (a.apply event) := by
  change HoldsArrivals ((g.apply event).toOption.getD g) _
  unfold Graph.apply Arrivals.apply
  rw [← holds.state]
  cases g.state.next? event with
  | none => exact ⟨rfl, holds.elements⟩
  | some state => exact ⟨rfl, holds.elements⟩

/-- Adding an element takes a graph and the order of arrivals to matching ones, also if it is
refused. -/
theorem HoldsArrivals.add (holds : HoldsArrivals g a) (e : Element) :
    HoldsArrivals (((GraphCall.add e).result g).toOption.getD g) (a.add e) := by
  change HoldsArrivals ((g.add e).toOption.getD g) _
  unfold Arrivals.add
  rw [← holds.state]
  split
  · next accepted =>
    obtain ⟨g', added, grows⟩ := add_of_new accepted.1 (holds.get?_eq_none.mpr accepted.2)
    rw [added]
    refine ⟨grows.state, grows.elements.trans ?_⟩
    exact List.perm_append_comm.trans (holds.elements.append_right [e])
  · next refused =>
    cases added : g.add e with
    | ok g' =>
      obtain ⟨loading, fresh, -⟩ := new_of_add added
      exact absurd ⟨loading, holds.get?_eq_none.mp fresh⟩ refused
    | error f => exact holds

/-- Dropping all elements takes a graph and the order of arrivals to matching ones. -/
theorem HoldsArrivals.reset (holds : HoldsArrivals g a) :
    HoldsArrivals ((GraphCall.reset.result g).toOption.getD g) a.reset := by
  change HoldsArrivals (g.reset.toOption.getD g) _
  unfold Graph.reset Arrivals.reset
  rw [← holds.state]
  split
  · exact ⟨rfl, .refl _⟩
  · exact holds

/-- What a call makes of the graph and of the arrivals, the failing calls included. -/
theorem holdsArrivals_of_perform (holds : HoldsArrivals g a) (c : GraphCall) :
    HoldsArrivals ((perform c).run.run g).2 (a.call c) := by
  rw [GraphCall.run_perform]
  cases c with
  | apply event => exact holds.apply event
  | add e => exact holds.add e
  | reset => exact holds.reset

/-- A graph holds what has arrived in any sequence of calls. -/
theorem holdsArrivals_after (s : RepositorySet) (calls : List GraphCall) :
    HoldsArrivals (after calls (new s)) (.ofCalls calls) := by
  unfold after Arrivals.ofCalls
  exact List.foldl_rel (holdsArrivals_new s) fun c _ _ _ holds => holdsArrivals_of_perform holds c

/-- The arrivals, sorted, are the elements of the graph. -/
theorem HoldsArrivals.elementsOf (holds : HoldsArrivals g a) (name : Option String) :
    g.elementsOf name = a.elementsOf name := by
  unfold Arrivals.elementsOf
  rw [Keyed.mergeSort_of_perm g.ascending holds.elements.symm]
  cases name with
  | none => exact (List.filter_true _).symm
  | some name => rfl

/-- After any calls on a new graph, its elements are those that have come, sorted by path. -/
theorem elementsOf_after (s : RepositorySet) (calls : List GraphCall) (name : Option String) :
    (after calls (new s)).elementsOf name = (Arrivals.ofCalls calls).elementsOf name :=
  (holdsArrivals_after s calls).elementsOf name

/-- Graphs to which the same elements have come list them in the same order. -/
theorem HoldsArrivals.elementsOf_eq (holds : HoldsArrivals g a) (holds' : HoldsArrivals g' a')
    (same : ∀ e, e ∈ a.elements ↔ e ∈ a'.elements) : g.elementsOf = g'.elementsOf := by
  have arrived : a.elements.Perm a'.elements :=
    (List.perm_ext_iff_of_nodup holds.nodup holds'.nodup).mpr same
  have kept : g.elements = g'.elements :=
    elements_eq_of_perm (holds.elements.trans (arrived.trans holds'.elements.symm))
  funext name
  cases name with
  | none => exact kept
  | some name => exact congrArg (List.filter _) kept

/-- What is made of two ready graphs to which the same elements have come, whatever the order and
whatever calls failed or were undone on the way: the files of every unit are the same, octet by
octet, and so is the code generated for every plan, module by module and in the same order. -/
theorem artifacts_eq_of_filled (s s' : RepositorySet) {calls calls' : List GraphCall}
    (ready : (after calls (new s)).state = .ready) (ready' : (after calls' (new s')).state = .ready)
    (same : ∀ e, e ∈ (Arrivals.ofCalls calls).elements ↔ e ∈ (Arrivals.ofCalls calls').elements) :
    (∀ u, Metadata.serialize (after calls (new s)) u =
      Metadata.serialize (after calls' (new s')) u) ∧
    ∀ plan external, ∃ code,
      Code.generate (after calls (new s)) plan external = .ok code ∧
      Code.generate (after calls' (new s')) plan external = .ok code := by
  have listed := (holdsArrivals_after s calls).elementsOf_eq (holdsArrivals_after s' calls') same
  have complete : (after calls (new s)).isReady = true := beq_iff_eq.mpr ready
  have complete' : (after calls' (new s')).isReady = true := beq_iff_eq.mpr ready'
  constructor
  · intro u
    exact Metadata.serialize_congr complete complete' (congrFun listed u.repository)
  · intro plan external
    have code : Code.ofPlan (after calls' (new s')) plan external =
        Code.ofPlan (after calls (new s)) plan external := by
      unfold Code.ofPlan
      rw [listed]
    refine ⟨Code.ofPlan (after calls (new s)) plan external, if_pos complete, ?_⟩
    rw [← code]
    exact if_pos complete'

/-- Calls that rebuild a graph from elements, one after the other. -/
def fillingWith (es : List Element) : List GraphCall :=
  [.apply .cacheMissed, .apply .rebuildStarted] ++ es.map .add ++ [.apply .completed]

/-- The elements of the small source tree may come in either order, and one of them a second time,
which fails. -/
theorem artifacts_either_order :
    (Arrivals.ofCalls (fillingWith Sample.elements)).elements = Sample.elements ∧
    (Arrivals.ofCalls (fillingWith (Sample.elements.reverse ++ Sample.elements))).elements =
      Sample.elements.reverse ∧
    ∀ plan external, ∃ code,
      Code.generate (after (fillingWith Sample.elements) (new Sample.repositories)) plan external =
        .ok code ∧
      Code.generate (after (fillingWith (Sample.elements.reverse ++ Sample.elements))
        (new Sample.repositories)) plan external = .ok code := by
  have forward : (Arrivals.ofCalls (fillingWith Sample.elements)).elements = Sample.elements := by
    decide
  have backward : (Arrivals.ofCalls
      (fillingWith (Sample.elements.reverse ++ Sample.elements))).elements =
      Sample.elements.reverse := by
    decide
  refine ⟨forward, backward, (artifacts_eq_of_filled Sample.repositories Sample.repositories
    (by decide) (by decide) fun e => ?_).2⟩
  rw [forward, backward, List.mem_reverse]

end Graph

end ModelForge
