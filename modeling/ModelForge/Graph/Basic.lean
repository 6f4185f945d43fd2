import ModelForge.Graph.Element
import ModelForge.Repository.Basic

/-!
# Graphs

A graph holds the compiled elements of a set of repositories, ascending by path, and where it
stands in its life cycle. Elements are added and dropped only while the graph is loading.
-/

namespace ModelForge

/-- A graph of elements. -/
structure Graph where
  repositories : RepositorySet
  state : GraphState
  /-- Every state the graph has been in, oldest first. -/
  history : List GraphState
  elements : List Element
  ascending : Keyed.Ascending Element.path elements

namespace Graph

/-- A graph that has not been loaded. -/
def new (repositories : RepositorySet) : Graph :=
  ⟨repositories, .notLoaded, [.notLoaded], [], List.Pairwise.nil⟩

/-- The element at a path. -/
def get? (g : Graph) (path : String) : Option Element :=
  Keyed.find? Element.path path g.elements

/-- The number of elements. -/
def size (g : Graph) : Nat := g.elements.length

/-- Whether the graph is complete. -/
def isReady (g : Graph) : Bool := g.state == .ready

/-- The elements of a repository, or all, ascending by path. -/
def elementsOf (g : Graph) : Option String → List Element
  | none => g.elements
  | some name => g.elements.filter fun e => e.repository == name

/-- The graph after an event. -/
def apply (g : Graph) (event : GraphEvent) : Except Failure Graph :=
  match g.state.next? event with
  | some state => .ok { g with state := state, history := g.history ++ [state] }
  | none => .error (.transition g.state event)

/-- The graph with one element more. -/
def add (g : Graph) (e : Element) : Except Failure Graph :=
  if g.state.isLoading then
    match fresh : Keyed.find? Element.path e.path g.elements with
    | some _ => .error (.duplicateElement e.path)
    | none =>
      .ok { g with
        elements := Keyed.insert Element.path e g.elements
        ascending := Keyed.ascending_insert g.ascending fresh }
  else .error (.frozen "add elements to" g.state)

/-- The graph without its elements. -/
def reset (g : Graph) : Except Failure Graph :=
  if g.state.isLoading then
    .ok { g with elements := [], ascending := List.Pairwise.nil }
  else .error (.frozen "reset" g.state)

end Graph

end ModelForge
