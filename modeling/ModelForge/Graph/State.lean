/-!
# The life cycle of a graph

A graph starts unloaded. It is filled from a cache or, after a miss, by a rebuild, and ends ready
or failed. No event leads back to the cache once a rebuild has begun, and none leaves an end state.
-/

namespace ModelForge

/-- Where a graph stands in its life cycle. -/
inductive GraphState where
  | notLoaded
  | cacheHit
  | cacheMiss
  | rebuilding
  | ready
  | failed
  deriving DecidableEq, Repr

/-- What can happen to a graph. -/
inductive GraphEvent where
  | cacheLoaded
  | cacheMissed
  | rebuildStarted
  | completed
  | failed
  deriving DecidableEq, Repr

namespace GraphState

/-- The states by name. -/
def names : List (String × GraphState) :=
  [("not_loaded", notLoaded), ("cache_hit", cacheHit), ("cache_miss", cacheMiss),
   ("rebuilding", rebuilding), ("ready", ready), ("failed", failed)]

/-- The name of a state. -/
def name : GraphState → String
  | notLoaded => "not_loaded"
  | cacheHit => "cache_hit"
  | cacheMiss => "cache_miss"
  | rebuilding => "rebuilding"
  | ready => "ready"
  | failed => "failed"

/-- Whether elements may be added or dropped. -/
def isLoading : GraphState → Bool
  | notLoaded | rebuilding => true
  | _ => false

/-- The state after an event, if the event is allowed. -/
def next? : GraphState → GraphEvent → Option GraphState
  | notLoaded, .cacheLoaded => some cacheHit
  | notLoaded, .cacheMissed => some cacheMiss
  | notLoaded, .failed => some failed
  | cacheHit, .completed => some ready
  | cacheHit, .failed => some failed
  | cacheMiss, .rebuildStarted => some rebuilding
  | cacheMiss, .failed => some failed
  | rebuilding, .completed => some ready
  | rebuilding, .failed => some failed
  | _, _ => none

end GraphState

namespace GraphEvent

/-- The events by name. -/
def names : List (String × GraphEvent) :=
  [("cache_loaded", cacheLoaded), ("cache_missed", cacheMissed),
   ("rebuild_started", rebuildStarted), ("completed", completed), ("failed", failed)]

/-- The name of an event. -/
def name : GraphEvent → String
  | cacheLoaded => "cache_loaded"
  | cacheMissed => "cache_missed"
  | rebuildStarted => "rebuild_started"
  | completed => "completed"
  | failed => "failed"

end GraphEvent

end ModelForge
