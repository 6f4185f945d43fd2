import ModelForge.Repository.Basic

/-!
# Selection of repositories

A run works on the requested repositories, or on all if none is requested, less the excluded ones.
-/

namespace ModelForge

namespace RepositorySet

/-- The requested names that no member has, ascending and each once. -/
def unknown (s : RepositorySet) (requested : List String) : List String :=
  (Names.ofList requested).filter fun n => !s.contains n

/-- The names to choose from: those requested, or all if none is. -/
def candidates (s : RepositorySet) (requested : List String) : List String :=
  if requested.isEmpty then s.names else Names.ofList requested

/-- The selected names, ascending. Every requested name must be known; an excluded one need not. -/
def select (s : RepositorySet) (requested excluded : List String) :
    Except Failure (List String) :=
  match s.unknown requested with
  | [] => .ok ((s.candidates requested).filter fun n => !excluded.contains n)
  | missing => .error (.unknownRepositories missing)

end RepositorySet

end ModelForge
