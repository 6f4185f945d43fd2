import ModelForge.Proofs.Text.Named
import ModelForge.Schema.Rule

/-! # Objects that satisfy a schema

An object whose members are all known is read member by member
(`ModelForge.Schema.closed_object`, `ModelForge.Schema.required_of_lookup`). Lists, and maps whose
names are distinct, are read back item by item (`ModelForge.Schema.list_of_each`,
`ModelForge.Schema.map_of_each`).
-/

namespace ModelForge

namespace Schema

variable {α : Type} {entries : List (Value × Value)} {members : List (String × Value)}
  {name : String} {v : Value} {a : α}

/-- Members of an object as entries of a map. -/
def entriesOf (members : List (String × Value)) : List (Value × Value) :=
  members.map fun (name, v) => (.text name, v)

theorem object_eq (members : List (String × Value)) :
    Value.object members = .map (entriesOf members) := rfl

@[simp]
theorem lookup_cons (name other : String) (v : Value) (members : List (String × Value)) :
    Value.lookup name (entriesOf ((other, v) :: members)) =
      (Value.lookup name (entriesOf members)).orElse
        fun _ => if other = name then some v else none :=
  rfl

@[simp]
theorem lookup_nil (name : String) : Value.lookup name (entriesOf []) = none := rfl

/-- A member of an object is found. -/
theorem isSome_lookup (member : name ∈ members.map Prod.fst) :
    (Value.lookup name (entriesOf members)).isSome := by
  induction members with
  | nil => cases member
  | cons m members ih =>
    obtain ⟨other, v⟩ := m
    rw [lookup_cons]
    cases found : Value.lookup name (entriesOf members) with
    | some w => rfl
    | none =>
      rcases List.mem_cons.mp member with rfl | behind
      · simp
      · rw [found] at ih
        exact absurd (ih behind) Bool.false_ne_true

/-- An object with known members only is what its members make. -/
theorem closed_object {known : List String} (each : ∀ m ∈ members, m.1 ∈ known) (a : Checked α) :
    closed known (entriesOf members) a = a := by
  have none_strange (used : List String) (some_used : ∀ m ∈ members, m.1 ∈ used) :
      strangers used (entriesOf members) = [] := by
    clear each
    induction members with
    | nil => rfl
    | cons m members ih =>
      have first : used.contains m.1 = true :=
        List.contains_iff_mem.mpr (some_used m List.mem_cons_self)
      change (if used.contains m.1 then strangers used (entriesOf members) else _) = []
      rw [if_pos first]
      exact ih fun n member => some_used n (List.mem_cons_of_mem _ member)
  unfold closed
  split
  · next broken =>
    obtain ⟨pair, member, no⟩ := List.any_eq_true.mp broken
    obtain ⟨m, -, rfl⟩ := List.mem_map.mp member
    cases no
  · rw [none_strange _ fun m member => List.mem_filter.mpr
      ⟨each m member, isSome_lookup (List.mem_map_of_mem member)⟩]

/-- A member that is found is read by its rule. -/
theorem member_of_lookup {rule : Value → Checked α} (fallback : Option α)
    (found : Value.lookup name entries = some v) (reads : rule v = .valid a) :
    member entries name rule fallback = .valid a := by
  unfold member
  rw [found]
  dsimp only
  rw [reads]
  rfl

/-- A member that must be there and is found is read by its rule. -/
theorem required_of_lookup {rule : Value → Checked α}
    (found : Value.lookup name entries = some v) (reads : rule v = .valid a) :
    required entries name rule = .valid a := member_of_lookup none found reads

theorem text_valid (s : String) : text (.text s) = .valid s := rfl

/-- A text of the right form is read. -/
theorem textLike_of_form {pattern s : String} {form : String → Bool} (formed : form s = true) :
    textLike pattern form (.text s) = .valid s := by
  change Checked.map Subtype.val (if has : form s = true then _ else _) = _
  rw [dif_pos formed]
  rfl

theorem integer_of_le {least i : Int} (large : least ≤ i) : integer least (.int i) = .valid i := by
  change (if least ≤ i then _ else _) = _
  rw [if_pos large]

/-- Items are read back from any place on. -/
theorem eachFrom_of_each {rule : Value → Checked α} {write : α → Value} {items : List α}
    (each : ∀ a ∈ items, rule (write a) = .valid a) (index : Nat) :
    eachFrom rule index (items.map write) = .valid items := by
  induction items generalizing index with
  | nil => rfl
  | cons a items ih =>
    rw [List.map_cons, eachFrom, each a List.mem_cons_self,
      ih fun b member => each b (List.mem_cons_of_mem _ member)]
    rfl

/-- A list is read back if its items are. -/
theorem list_of_each {rule : Value → Checked α} {write : α → Value} {items : List α}
    (each : ∀ a ∈ items, rule (write a) = .valid a) :
    list rule (.list (items.map write)) = .valid items := eachFrom_of_each each 0

theorem texts_valid (ss : List String) : list text (.texts ss) = .valid ss :=
  list_of_each fun s _ => text_valid s

/-- A kind of object is chosen by the text of its tag. -/
theorem variant_of_tag {discriminator tag : String} {rule : List (Value × Value) → Checked α}
    {options : List (String × (List (Value × Value) → Checked α))}
    (tagged : Value.lookup discriminator entries = some (.text tag))
    (option : options.lookup tag = some rule) (reads : rule entries = .valid a) :
    variant discriminator options (.map entries) = .valid a := by
  unfold variant
  dsimp only
  rw [tagged]
  dsimp only
  rw [option]
  dsimp only [Option.map_some]
  rw [reads]
  rfl

/-! ## Maps -/

/-- Entries are read back if their values are. -/
theorem eachEntry_of_each {rule : Value → Checked α} {write : α → Value}
    {named : List (String × α)} (each : ∀ n ∈ named, rule (write n.2) = .valid n.2) :
    eachEntry rule (entriesOf (named.map fun (name, a) => (name, write a))) = .valid named := by
  induction named with
  | nil => rfl
  | cons n named ih =>
    have first : rule (write n.2) = .valid n.2 := each n List.mem_cons_self
    have others := ih fun m member => each m (List.mem_cons_of_mem _ member)
    unfold entriesOf at others ⊢
    rw [List.map_cons, List.map_cons, eachEntry, others, first]
    rfl

/-- A map with distinct names is read back if its values are. -/
theorem map_of_each {rule : Value → Checked α} {write : α → Value} {named : List (String × α)}
    (distinct : (named.map Prod.fst).Nodup) (each : ∀ n ∈ named, rule (write n.2) = .valid n.2) :
    map rule (.object (named.map fun (name, a) => (name, write a))) = .valid named := by
  rw [object_eq]
  change (eachEntry rule _).map Named.ofList = _
  rw [eachEntry_of_each each, Checked.map, Named.ofList_of_nodup distinct]

end Schema

end ModelForge
