/-!
# Sets of names

A set of names is kept as the ascending list of its members. `ofList` sorts names and drops
repetitions; its result depends on the members alone.
-/

namespace ModelForge

namespace Names

/-- Puts a name into an ascending list, unless it is there. -/
def insert (name : String) : List String → List String
  | [] => [name]
  | first :: rest =>
    if name < first then name :: first :: rest
    else if name = first then first :: rest
    else first :: insert name rest

/-- The names of a list, ascending and each once. -/
def ofList (names : List String) : List String := names.foldr insert []

/-- The names of a list, ascending, repetitions kept. -/
def sorted (names : List String) : List String := names.mergeSort fun a b => decide (a ≤ b)

@[simp]
theorem mem_insert {a name : String} {names : List String} :
    a ∈ insert name names ↔ a = name ∨ a ∈ names := by
  induction names with
  | nil => simp [insert]
  | cons first rest ih =>
    unfold insert
    split
    · simp
    · split
      · next same => subst same; simp
      · simp [ih]; grind

/-- Sorting names loses none. -/
@[simp]
theorem mem_ofList {a : String} {names : List String} : a ∈ ofList names ↔ a ∈ names := by
  induction names with
  | nil => simp [ofList]
  | cons name rest ih => simpa [ofList] using or_congr_right ih

private theorem lt_of_not_lt {a b : String} (h : ¬ a < b) (ne : a ≠ b) : b < a := by
  rcases Std.lt_trichotomy a b with less | same | more
  · exact absurd less h
  · exact absurd same ne
  · exact more

theorem pairwise_insert (name : String) {names : List String}
    (ascending : names.Pairwise (· < ·)) : (insert name names).Pairwise (· < ·) := by
  induction names with
  | nil => simp [insert]
  | cons first rest ih =>
    rw [List.pairwise_cons] at ascending
    unfold insert
    split
    · next less =>
      refine List.pairwise_cons.2 ⟨fun b hb => ?_, List.pairwise_cons.2 ascending⟩
      rcases List.mem_cons.1 hb with rfl | hb
      · exact less
      · exact String.lt_trans less (ascending.1 b hb)
    · next notLess =>
      split
      · exact List.pairwise_cons.2 ascending
      · next differs =>
        refine List.pairwise_cons.2 ⟨fun b hb => ?_, ih ascending.2⟩
        rcases mem_insert.1 hb with rfl | hb
        · exact lt_of_not_lt notLess differs
        · exact ascending.1 b hb

/-- The list of a set is strictly ascending. -/
theorem pairwise_ofList (names : List String) : (ofList names).Pairwise (· < ·) := by
  induction names with
  | nil => simp [ofList]
  | cons name rest ih => exact pairwise_insert name ih

/-- Sorted names are distinct. -/
theorem nodup_ofList (names : List String) : (ofList names).Nodup := by
  refine (pairwise_ofList names).imp fun less same => ?_
  rw [same] at less
  exact String.lt_irrefl _ less

end Names

end ModelForge
