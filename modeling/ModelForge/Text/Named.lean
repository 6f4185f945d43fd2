/-!
# Named things in the order they came

A list in which each name stands once: of things with one name the last one counts, at the place of
the first.
-/

namespace ModelForge

namespace Named

/-- Puts a named thing among others: one with the same name gives way and the place stays. -/
def put {α : Type} (name : String) (a : α) : List (String × α) → List (String × α)
  | [] => [(name, a)]
  | (n, b) :: rest => if n = name then (n, a) :: rest else (n, b) :: put name a rest

/-- Named things put one after the other. -/
def ofList {α : Type} (items : List (String × α)) : List (String × α) :=
  items.foldl (fun acc (name, a) => put name a acc) []

end Named

end ModelForge
