import ModelForge.Code.Generation
import ModelForge.Proofs.Step
import ModelForge.Proofs.Text.Named

/-! # The units of a plan

A monolithic plan has one unit and a modular one a unit for each selected name
(`ModelForge.Plan.units_of_build`). The generated groups are named after the units
(`ModelForge.Code.names_groups`), and the group with the name of a unit holds its modules
(`ModelForge.Code.lookup_groups`).
-/

namespace ModelForge

namespace Plan

variable {type : GenerationType} {selected : List String} {plan : Plan} {u : OutputUnit}

/-- The unit of the whole graph. -/
def wholeUnit : OutputUnit := ⟨wholeName, none⟩

/-- The unit of a repository. -/
def unitOf (name : String) : OutputUnit := ⟨name, some name⟩

/-- The units that a plan is to have. -/
def unitsFor : GenerationType → List String → List OutputUnit
  | .monolithic, _ => [wholeUnit]
  | .modular, selected => selected.map unitOf

/-- A unit has the name it was made with, which is not empty. -/
theorem make_eq_ok {name : String} {repository : Option String}
    (made : OutputUnit.make name repository = .ok u) :
    u = ⟨name, repository⟩ ∧ name.isEmpty = false := by
  unfold OutputUnit.make at made
  split at made
  · cases made
  · next some_name =>
    cases made
    exact ⟨rfl, by simpa using some_name⟩

/-- The units of a plan are settled by its type and its selection. -/
theorem units_of_build (built : build type selected = .ok plan) :
    plan.units = unitsFor type selected := by
  cases type with
  | monolithic =>
    cases built
    rfl
  | modular =>
    obtain ⟨units, each, made⟩ := Result.bind_eq_ok.mp built
    cases made
    have pairs := Result.mapM_eq_ok.mp each
    clear each built
    change units = selected.map unitOf
    induction pairs with
    | nil => rfl
    | cons first _ ih => rw [List.map_cons, ih, (make_eq_ok first).1]; rfl

/-- A plan is modular exactly if that is asked for. -/
theorem isModular_of_build (built : build type selected = .ok plan) :
    plan.isModular = (type == .modular) := by
  cases type with
  | monolithic =>
    cases built
    rfl
  | modular =>
    obtain ⟨units, -, made⟩ := Result.bind_eq_ok.mp built
    cases made
    rfl

/-- No selected name of a plan is empty. -/
theorem isEmpty_of_build (built : build .modular selected = .ok plan) {name : String}
    (member : name ∈ selected) : name.isEmpty = false := by
  obtain ⟨units, each, -⟩ := Result.bind_eq_ok.mp built
  obtain ⟨u, -, made⟩ := Result.exists_of_mapM each member
  exact (make_eq_ok made).2

/-- A modular plan can be built exactly if no selected name is empty. -/
theorem exists_build_iff : (∃ plan, build .modular selected = .ok plan) ↔
    ∀ name ∈ selected, name.isEmpty = false := by
  refine ⟨fun ⟨plan, built⟩ name => isEmpty_of_build built, fun some_names => ?_⟩
  have each : ∀ name ∈ selected, ∃ u, OutputUnit.make name (some name) = .ok u := by
    intro name member
    refine ⟨unitOf name, if_neg ?_⟩
    rw [some_names name member]
    exact Bool.false_ne_true
  obtain ⟨units, made⟩ := Result.mapM_of_each each
  exact ⟨⟨.modular, units⟩, Result.bind_eq_ok.mpr ⟨units, made, rfl⟩⟩

/-- A modular plan has one unit for each selected name. -/
theorem mem_units_of_build (built : build .modular selected = .ok plan) {name : String} :
    unitOf name ∈ plan.units ↔ name ∈ selected := by
  rw [units_of_build built]
  change unitOf name ∈ selected.map unitOf ↔ _
  rw [List.mem_map]
  constructor
  · rintro ⟨other, member, same⟩
    cases same
    exact member
  · intro member
    exact ⟨name, member, rfl⟩

/-- Units of different repositories differ. -/
theorem unitOf_injective : Function.Injective unitOf :=
  fun _ _ same => congrArg OutputUnit.name same

/-- Units with one name are one unit. -/
theorem names_of_build (built : build type selected = .ok plan) :
    (plan.units.map OutputUnit.name).eraseDups = plan.units.eraseDups.map OutputUnit.name := by
  rw [units_of_build built]
  cases type with
  | monolithic => rfl
  | modular =>
    have back (names : List String) : (names.map unitOf).map OutputUnit.name = names := by
      rw [List.map_map]
      exact List.map_id names
    change ((selected.map unitOf).map _).eraseDups = (selected.map unitOf).eraseDups.map _
    rw [eraseDups_map unitOf_injective, back, back]

/-- The name tells the units of a plan apart. -/
theorem unit_eq_of_name {u' : OutputUnit} (built : build type selected = .ok plan)
    (member : u ∈ plan.units) (member' : u' ∈ plan.units) (same : u.name = u'.name) : u = u' := by
  rw [units_of_build built] at member member'
  cases type with
  | monolithic =>
    rw [List.mem_singleton.mp member, List.mem_singleton.mp member']
  | modular =>
    obtain ⟨name, -, rfl⟩ := List.mem_map.mp member
    obtain ⟨name', -, rfl⟩ := List.mem_map.mp member'
    exact congrArg unitOf same

end Plan

namespace Code

open Plan (wholeUnit unitOf)

variable {g : Graph} {type : GenerationType} {selected : List String} {plan : Plan}
  {external : ExternalPackage} {u : OutputUnit}

/-- The groups are named after the units, each name once. -/
theorem names_groups (g : Graph) (plan : Plan) (external : ExternalPackage) :
    (ofPlan g plan external).groups.map Prod.fst = (plan.units.map OutputUnit.name).eraseDups := by
  unfold ofPlan
  rw [Named.names_ofList, List.map_map]
  rfl

/-- The group with the name of a unit holds the modules of the unit. -/
theorem lookup_groups (built : Plan.build type selected = .ok plan) (member : u ∈ plan.units)
    (external : ExternalPackage) :
    (ofPlan g plan external).groups.lookup u.name =
      some (modulesOf u (g.elementsOf u.repository)) := by
  have units := Plan.units_of_build built
  rw [units] at member
  unfold ofPlan
  dsimp only
  rw [units]
  cases type with
  | monolithic =>
    cases List.mem_singleton.mp member
    exact Named.lookup_ofList_map (fun _ => modulesOf wholeUnit (g.elementsOf none))
      (List.mem_singleton_self Plan.wholeName)
  | modular =>
    obtain ⟨name, chosen, rfl⟩ := List.mem_map.mp member
    unfold Plan.unitsFor
    rw [List.map_map]
    exact Named.lookup_ofList_map (fun n => modulesOf (unitOf n) (g.elementsOf (some n))) chosen

/-- A group of generated code holds the modules of a unit. -/
theorem mem_groups {group : String × ModuleTexts}
    (member : group ∈ (ofPlan g plan external).groups) :
    ∃ u ∈ plan.units, (u.name, modulesOf u (g.elementsOf u.repository)) = group :=
  List.mem_map.mp (Named.mem_of_mem_ofList member)

/-- The groups are those of the units. -/
theorem mem_groups_iff (built : Plan.build type selected = .ok plan)
    {group : String × ModuleTexts} : group ∈ (ofPlan g plan external).groups ↔
      ∃ u ∈ plan.units, (u.name, modulesOf u (g.elementsOf u.repository)) = group := by
  refine ⟨mem_groups, ?_⟩
  rintro ⟨u, member, rfl⟩
  exact Named.mem_of_lookup (lookup_groups built member external)

/-- The groups to be marked are those of units with elements of the external interface. -/
theorem isExternalizable_ofPlan (built : Plan.build type selected = .ok plan)
    (member : u ∈ plan.units) (package : String) :
    (ofPlan g plan (some package)).isExternalizable u.name =
      (g.elementsOf u.repository).any Element.isExternalizable := by
  have marked : (ofPlan g plan (some package)).isExternalizable u.name = true ↔
      u.name ∈ (plan.units.filter fun u =>
        (g.elementsOf u.repository).any Element.isExternalizable).map OutputUnit.name := by
    unfold ofPlan Generation.isExternalizable
    exact List.contains_iff_mem
  rw [Bool.eq_iff_iff, marked, List.mem_map]
  constructor
  · rintro ⟨u', inside, same⟩
    obtain ⟨member', some_element⟩ := List.mem_filter.mp inside
    rwa [Plan.unit_eq_of_name built member member' same.symm]
  · intro some_element
    exact ⟨u, List.mem_filter.mpr ⟨member, some_element⟩, rfl⟩

end Code

end ModelForge
