import ModelForge.Proofs.Text.Named
import ModelForge.Schema.Rule

/-! # What satisfies a schema

What has been read satisfies the rules it was read with: the parts of an object
(`ModelForge.Checked.seq_eq_valid`, `ModelForge.Schema.eq_valid_of_closed`), its members
(`ModelForge.Schema.required_eq_valid`, `ModelForge.Schema.member_eq_valid`), the items of a list
(`ModelForge.Schema.exists_of_list`) and what was chosen by a tag
(`ModelForge.Schema.exists_of_variant`).
-/

namespace ModelForge

namespace Checked

variable {α β : Type} {a : α} {b : β}

/-- A part that is read through a function is read. -/
theorem map_eq_valid {f : α → β} {x : Checked α} :
    f <$> x = .valid b ↔ ∃ a, x = .valid a ∧ f a = b := by
  cases x with
  | valid a =>
    constructor
    · intro same
      cases same
      exact ⟨a, rfl, rfl⟩
    · rintro ⟨_, same, rfl⟩
      cases same
      rfl
  | invalid vs =>
    constructor
    · intro no
      cases no
    · rintro ⟨_, no, _⟩
      cases no

/-- Two parts are read exactly when each of them is. -/
theorem seq_eq_valid {f : Checked (α → β)} {x : Checked α} :
    f <*> x = .valid b ↔ ∃ g a, f = .valid g ∧ x = .valid a ∧ g a = b := by
  constructor
  · intro same
    cases f with
    | valid g =>
      cases x with
      | valid a =>
        cases same
        exact ⟨g, a, rfl, rfl, rfl⟩
      | invalid vs => cases same
    | invalid vs => cases x <;> cases same
  · rintro ⟨g, a, rfl, rfl, rfl⟩
    rfl

/-- A rule after another one reads what both accept. -/
theorem andThen_eq_valid {x : Checked α} {rule : α → Checked β} :
    x.andThen rule = .valid b ↔ ∃ a, x = .valid a ∧ rule a = .valid b := by
  cases x with
  | valid a =>
    constructor
    · intro same
      exact ⟨a, rfl, same⟩
    · rintro ⟨_, same, reads⟩
      cases same
      exact reads
  | invalid vs =>
    constructor
    · intro no
      cases no
    · rintro ⟨_, no, _⟩
      cases no

/-- What is read at a place is what is read. -/
theorem below_eq_valid {label : String} {x : Checked α} :
    x.below label = .valid a ↔ x = .valid a := by
  cases x with
  | valid a => exact Iff.rfl
  | invalid vs =>
    constructor
    · intro no
      cases no
    · intro no
      cases no

end Checked

namespace Schema

variable {α : Type} {entries : List (Value × Value)} {name : String} {v : Value} {a : α}
  {rule : Value → Checked α}

/-- What an object of known members is read as comes from its members. -/
theorem eq_valid_of_closed {known : List String} {x : Checked α}
    (reads : closed known entries x = .valid a) : x = .valid a := by
  unfold closed at reads
  split at reads
  · cases reads
  · split at reads
    · exact reads
    · cases reads

/-- A member was read by its rule, or has its fallback. -/
theorem member_eq_valid {fallback : Option α}
    (reads : member entries name rule fallback = .valid a) :
    (∃ v, rule v = .valid a) ∨ fallback = some a := by
  unfold member at reads
  split at reads
  · next v _ => exact .inl ⟨v, Checked.below_eq_valid.mp reads⟩
  · cases reads
    exact .inr rfl
  · cases reads

/-- A member that must be there was read by its rule. -/
theorem required_eq_valid (reads : required entries name rule = .valid a) :
    ∃ v, rule v = .valid a :=
  (member_eq_valid reads).resolve_right fun no => by cases no

/-- What is read of an object is read of its entries. -/
theorem object_eq_valid {model : String} {rule : List (Value × Value) → Checked α}
    (reads : object model rule v = .valid a) : ∃ entries, rule entries = .valid a := by
  unfold object at reads
  split at reads
  · next entries => exact ⟨entries, reads⟩
  · cases reads

/-- Every item was read by the rule of the items. -/
theorem exists_of_eachFrom {index : Nat} {values : List Value} {items : List α}
    (reads : eachFrom rule index values = .valid items) :
    ∀ a ∈ items, ∃ v, rule v = .valid a := by
  induction values generalizing index items with
  | nil =>
    cases reads
    intro _ none
    cases none
  | cons v values ih =>
    obtain ⟨make, rest, first, others, rfl⟩ := Checked.seq_eq_valid.mp reads
    obtain ⟨b, read, rfl⟩ := Checked.map_eq_valid.mp first
    refine List.forall_mem_cons.mpr ⟨⟨v, Checked.below_eq_valid.mp read⟩, ih others⟩

/-- Every item of a list that was read was read by the rule of the list. -/
theorem exists_of_list {items : List α} (reads : list rule v = .valid items) :
    ∀ a ∈ items, ∃ v, rule v = .valid a := by
  unfold list at reads
  split at reads
  · exact exists_of_eachFrom reads
  · cases reads

/-- What was chosen by a tag was read by the rule of an option. -/
theorem exists_of_variant {discriminator : String}
    {options : List (String × (List (Value × Value) → Checked α))}
    (reads : variant discriminator options v = .valid a) :
    ∃ entries, ∃ option ∈ options, option.2 entries = .valid a := by
  unfold variant at reads
  split at reads
  · next entries =>
    split at reads
    · cases reads
    · split at reads
      · next tag _ =>
        dsimp only at reads
        cases option : options.lookup tag with
        | none =>
          rw [option] at reads
          cases reads
        | some rule =>
          rw [option] at reads
          obtain ⟨before, after, same, -⟩ := List.lookup_eq_some_iff.mp option
          refine ⟨entries, (tag, rule), ?_, Checked.below_eq_valid.mp reads⟩
          rw [same]
          exact List.mem_append_right _ List.mem_cons_self
      · cases reads
  · cases reads

/-- A text that was read has the right form. -/
theorem form_of_textLike {pattern s : String} {form : String → Bool}
    (reads : textLike pattern form v = .valid s) : form s = true := by
  obtain ⟨t, -, rfl⟩ := Checked.map_eq_valid.mp reads
  exact t.2

/-- A text that was read is not empty. -/
theorem isEmpty_of_someText {s : String} (reads : someText v = .valid s) : s.isEmpty = false := by
  obtain ⟨t, -, kept⟩ := Checked.andThen_eq_valid.mp reads
  split at kept
  · cases kept
  · next holds =>
    cases kept
    simpa using holds

/-- A map that was read has distinct names. -/
theorem nodup_of_map {named : List (String × α)} (reads : map rule v = .valid named) :
    (named.map Prod.fst).Nodup := by
  unfold map at reads
  split at reads
  · obtain ⟨items, -, rfl⟩ := Checked.map_eq_valid.mp reads
    rw [Named.names_ofList]
    exact nodup_eraseDups _
  · cases reads

end Schema

end ModelForge
