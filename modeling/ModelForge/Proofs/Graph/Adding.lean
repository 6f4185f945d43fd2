import ModelForge.Graph.Snapshot
import ModelForge.Proofs.Step
import ModelForge.Proofs.Text.Keyed

/-! # Adding elements to a graph

Elements can be added one after the other exactly when the graph is loading and their paths are
distinct and new (`ModelForge.Graph.addAll_of_distinct`, `ModelForge.Graph.grownBy_of_addAll`);
otherwise adding stops at the first path that is known
(`ModelForge.Graph.grownBy_of_addAll_refused`). What the graph then holds depends on the elements
alone and not on their order (`ModelForge.Graph.elements_eq_of_perm`).
-/

namespace ModelForge

namespace Graph

open Cache (addAll)

variable {g g' g'' : Graph} {e : Element} {es more : List Element}

/-- A graph to which elements were added: nothing else has changed. -/
structure GrownBy (g : Graph) (es : List Element) (g' : Graph) : Prop where
  repositories : g'.repositories = g.repositories
  state : g'.state = g.state
  history : g'.history = g.history
  elements : g'.elements.Perm (es ++ g.elements)

theorem GrownBy.refl (g : Graph) : GrownBy g [] g := ⟨rfl, rfl, rfl, .refl _⟩

/-- What was added in two goes was added. -/
theorem GrownBy.trans (first : GrownBy g es g') (second : GrownBy g' more g'') :
    GrownBy g (es ++ more) g'' := by
  refine ⟨second.repositories.trans first.repositories, second.state.trans first.state,
    second.history.trans first.history, second.elements.trans ?_⟩
  refine (first.elements.append_left more).trans ?_
  rw [← List.append_assoc]
  exact List.perm_append_comm.append_right _

/-- An element that was added counts as one more, in whatever place it stands. -/
theorem GrownBy.perm_append (grows : GrownBy g [e] g') (es : List Element) :
    (es ++ g'.elements).Perm (e :: es ++ g.elements) :=
  (grows.elements.append_left es).trans List.perm_middle

/-- Graphs that hold the same elements hold them in the same order. -/
theorem elements_eq_of_perm (same : g.elements.Perm g'.elements) : g.elements = g'.elements :=
  Keyed.eq_of_perm g.ascending g'.ascending same

/-- The paths of a graph are distinct. -/
theorem nodup_paths (g : Graph) : (g.elements.map Element.path).Nodup :=
  Keyed.nodup_keys g.ascending

/-- Nothing is found at a path exactly if no element has it. -/
theorem get?_eq_none {path : String} : g.get? path = none ↔ path ∉ g.elements.map Element.path := by
  unfold get?
  rw [Keyed.find?_eq_none, List.mem_map]
  exact ⟨fun each ⟨e, member, same⟩ => each e member same,
    fun none e member same => none ⟨e, member, same⟩⟩

/-- What is found at a path is the element that has it. -/
theorem get?_eq_some {path : String} : g.get? path = some e ↔ e ∈ g.elements ∧ e.path = path := by
  constructor
  · exact Keyed.find?_eq_some
  · rintro ⟨member, rfl⟩
    exact Keyed.find?_of_mem g.ascending member

/-- An element whose path is new can be added. -/
theorem add_of_new (loading : g.state.isLoading = true) (new : g.get? e.path = none) :
    ∃ g', g.add e = .ok g' ∧ GrownBy g [e] g' := by
  unfold add
  rw [if_pos loading]
  split
  · next first found =>
    rw [get?, found] at new
    cases new
  · exact ⟨_, rfl, rfl, rfl, rfl, Keyed.perm_insert _ _ _⟩

/-- Only an element whose path is new can be added. -/
theorem new_of_add (added : g.add e = .ok g') :
    g.state.isLoading = true ∧ g.get? e.path = none ∧ GrownBy g [e] g' := by
  unfold add at added
  split at added
  · next loading =>
    split at added
    · cases added
    · next fresh =>
      cases added
      exact ⟨loading, fresh, rfl, rfl, rfl, Keyed.perm_insert _ _ _⟩
  · cases added

/-- While a graph is loading, an element is only refused for its path. -/
theorem known_of_add_error {f : Failure} (loading : g.state.isLoading = true)
    (refused : g.add e = .error f) :
    f = .duplicateElement e.path ∧ e.path ∈ g.elements.map Element.path := by
  unfold add at refused
  rw [if_pos loading] at refused
  split at refused
  · next first found =>
    cases refused
    obtain ⟨member, path⟩ := get?_eq_some.mp found
    exact ⟨rfl, List.mem_map.mpr ⟨first, member, path⟩⟩
  · cases refused

/-- Elements with distinct new paths can be added. -/
theorem addAll_of_distinct (loading : g.state.isLoading = true)
    (distinct : ((es ++ g.elements).map Element.path).Nodup) :
    ∃ g', addAll g es = (none, g') ∧ GrownBy g es g' := by
  induction es generalizing g with
  | nil => exact ⟨g, rfl, .refl g⟩
  | cons e es ih =>
    rw [List.cons_append, List.map_cons, List.nodup_cons] at distinct
    obtain ⟨new, others⟩ := distinct
    have absent : g.get? e.path = none := get?_eq_none.mpr fun member =>
      new (by rw [List.map_append]; exact List.mem_append_right _ member)
    obtain ⟨g₁, added, grows⟩ := add_of_new loading absent
    have later : ((es ++ g₁.elements).map Element.path).Nodup := by
      rw [((grows.perm_append es).map Element.path).nodup_iff, List.cons_append, List.map_cons,
        List.nodup_cons]
      exact ⟨new, others⟩
    obtain ⟨g', addedAll, growsAll⟩ := ih (by rw [grows.state]; exact loading) later
    exact ⟨g', by rw [addAll, added]; exact addedAll, grows.trans growsAll⟩

/-- Only elements with distinct new paths can be added. -/
theorem grownBy_of_addAll (added : addAll g es = (none, g')) :
    ((es ++ g.elements).map Element.path).Nodup ∧ GrownBy g es g' := by
  induction es generalizing g with
  | nil =>
    cases added
    exact ⟨nodup_paths _, .refl _⟩
  | cons e es ih =>
    rw [addAll] at added
    cases one : g.add e with
    | error f =>
      rw [one] at added
      cases added
    | ok g₁ =>
      rw [one] at added
      obtain ⟨-, -, grows⟩ := new_of_add one
      obtain ⟨later, growsAll⟩ := ih added
      exact ⟨((grows.perm_append es).map Element.path).nodup_iff.mp later, grows.trans growsAll⟩

/-- Adding elements stops at the first one whose path is known by then. -/
theorem grownBy_of_addAll_refused {f : Failure} (loading : g.state.isLoading = true)
    (refused : addAll g es = (some f, g')) :
    ∃ before e after, es = before ++ e :: after ∧ f = .duplicateElement e.path ∧
      ((before ++ g.elements).map Element.path).Nodup ∧
      e.path ∈ (before ++ g.elements).map Element.path ∧ GrownBy g before g' := by
  induction es generalizing g with
  | nil => cases refused
  | cons e es ih =>
    rw [addAll] at refused
    cases one : g.add e with
    | error f' =>
      rw [one] at refused
      cases refused
      obtain ⟨failure, known⟩ := known_of_add_error loading one
      exact ⟨[], e, es, rfl, failure, nodup_paths _, known, .refl _⟩
    | ok g₁ =>
      rw [one] at refused
      obtain ⟨-, -, grows⟩ := new_of_add one
      obtain ⟨before, again, after, rfl, failure, distinct, known, growsOn⟩ :=
        ih (by rw [grows.state]; exact loading) refused
      have moved := (grows.perm_append before).map Element.path
      exact ⟨e :: before, again, after, rfl, failure, moved.nodup_iff.mp distinct,
        moved.mem_iff.mp known, grows.trans growsOn⟩

/-- Whatever comes of adding elements, it changes the elements only. -/
theorem addAll_keeps (g : Graph) (es : List Element) :
    (addAll g es).2.repositories = g.repositories ∧ (addAll g es).2.state = g.state ∧
      (addAll g es).2.history = g.history := by
  induction es generalizing g with
  | nil => exact ⟨rfl, rfl, rfl⟩
  | cons e es ih =>
    rw [addAll]
    cases one : g.add e with
    | error f => exact ⟨rfl, rfl, rfl⟩
    | ok g₁ =>
      obtain ⟨-, -, grows⟩ := new_of_add one
      obtain ⟨repositories, state, history⟩ := ih g₁
      exact ⟨repositories.trans grows.repositories, state.trans grows.state,
        history.trans grows.history⟩

/-- Adding elements goes on from where it stopped. -/
theorem addAll_append (added : addAll g es = (none, g')) (more : List Element) :
    addAll g (es ++ more) = addAll g' more := by
  induction es generalizing g with
  | nil =>
    cases added
    rfl
  | cons e es ih =>
    rw [addAll] at added
    rw [List.cons_append, addAll]
    cases one : g.add e with
    | error f =>
      rw [one] at added
      cases added
    | ok g₁ =>
      rw [one] at added
      exact ih added

/-- If all elements can be added, so can the first ones. -/
theorem addAll_prefix (addedAll : addAll g (es ++ more) = (none, g'')) :
    ∃ g', addAll g es = (none, g') := by
  induction es generalizing g with
  | nil => exact ⟨g, rfl⟩
  | cons e es ih =>
    rw [List.cons_append, addAll] at addedAll
    rw [addAll]
    cases one : g.add e with
    | error f =>
      rw [one] at addedAll
      cases addedAll
    | ok g₁ =>
      rw [one] at addedAll
      exact ih addedAll

end Graph

end ModelForge
