import Mathlib.Data.Set.Function
import ModelForge.Proofs.Code.Collisions

/-! # Groups in an external package

Asking for an external package changes nothing about the code that is generated: the groups, their
modules and the texts are the same, and the groups with elements of the external interface are
marked (`ModelForge.Code.isExternalizable_iff`). Compiling puts the modules of the marked groups
into the external package instead of the package of all others, and leaves every other module where
it is (`ModelForge.Code.relocated_of_external`).
-/

namespace ModelForge

namespace Code

variable {g : Graph} {plan : Plan} {code code' : Generation} {package group : String}
  {modules modules' : List CompiledModule} {m : CompiledModule}

/-! ## Moving a module -/

/-- Compiled modules of groups; added packages belong to none. -/
def Grouped (modules : List CompiledModule) : Set CompiledModule :=
  {m | m ∈ modules ∧ m.group ≠ none}

/-- The module of a marked group with the package in front of its group exchanged. Any other module
is left where it is. -/
def relocate (code : Generation) (package : String) (m : CompiledModule) : CompiledModule :=
  match m.group with
  | some group =>
    if code.isExternalizable group then
      { m with
        name := package ++ String.ofList (m.name.toList.drop generatedPackage.toList.length) }
    else m
  | none => m

/-- A module that is moved keeps its group and its bytecode. -/
theorem group_relocate (code : Generation) (package : String) (m : CompiledModule) :
    (relocate code package m).group = m.group ∧
      (relocate code package m).bytecode = m.bytecode := by
  unfold relocate
  split
  · split <;> exact ⟨rfl, rfl⟩
  · exact ⟨rfl, rfl⟩

/-- Modules of no group and those of groups that are not marked are left alone. -/
theorem relocate_of_not_marked
    (kept : ∀ group, m.group = some group → code.isExternalizable group = false) :
    relocate code package m = m := by
  unfold relocate
  split
  · next group tagged =>
    rw [kept group tagged]
    exact if_neg Bool.false_ne_true
  · rfl

/-- The root that the modules of a group have where a package is given for marked groups. -/
def rootWith (code : Generation) (package group : String) : String :=
  if code.isExternalizable group then package else generatedPackage

/-! ## Generating -/

/-- For any plan, also one with units of one name, the marked groups are those of a unit with an
element of the external interface. -/
theorem isExternalizable_iff (g : Graph) (plan : Plan) (package group : String) :
    (ofPlan g plan (some package)).isExternalizable group = true ↔
      ∃ u ∈ plan.units, u.name = group ∧
        ∃ e ∈ g.elementsOf u.repository, Element.externalizable ∈ e.stereotypes := by
  have marked : (ofPlan g plan (some package)).isExternalizable group = true ↔
      group ∈ (plan.units.filter fun u =>
        (g.elementsOf u.repository).any Element.isExternalizable).map OutputUnit.name := by
    unfold ofPlan Generation.isExternalizable
    exact List.contains_iff_mem
  rw [marked, List.mem_map]
  simp only [List.mem_filter, List.any_eq_true, Element.isExternalizable, List.contains_iff_mem]
  constructor
  · rintro ⟨u, ⟨member, inside⟩, same⟩
    exact ⟨u, member, same, inside⟩
  · rintro ⟨u, member, same, inside⟩
    exact ⟨u, ⟨member, inside⟩, same⟩

/-- From a ready graph the code of the plan is generated. -/
theorem generate_of_isReady (ready : g.isReady = true) (plan : Plan) (external : ExternalPackage) :
    generate g plan external = .ok (ofPlan g plan external) := by
  unfold generate
  rw [if_pos ready]

/-! ## Where modules are compiled -/

/-- Without an external package groups stand in the generated one. -/
theorem groupRoot_of_none (none_given : code.externalPackage = none) (group : String) :
    groupRoot code group = generatedPackage ++ "." ++ groupPackage group := by
  unfold groupRoot
  rw [none_given]

/-- With one, groups stand there or in the generated one. -/
theorem groupRoot_of_some (given : code.externalPackage = some package) (named : package ≠ "")
    (group : String) :
    groupRoot code group = rootWith code package group ++ "." ++ groupPackage group := by
  have some_name : package.isEmpty = false :=
    Bool.eq_false_iff.mpr fun empty => named (String.isEmpty_iff.mp empty)
  unfold groupRoot rootWith
  rw [given]
  dsimp only
  rw [some_name, Bool.not_false, Bool.and_true]
  split <;> rfl

variable [Compiler]

/-- What a module of a group is compiled to in the package of that group below a root. -/
def moduleIn (root group : String) (m : String × String) : CompiledModule :=
  ⟨root ++ "." ++ groupPackage group ++ "." ++ m.1, some group,
    Compiler.bytecode (jobFile group m.1) m.2⟩

/-- The modules of groups are those that were generated, each below the root of its group. -/
theorem mem_grouped (compiled : compile code = .ok modules) : m ∈ Grouped modules ↔
    ∃ group ∈ code.groups, ∃ x ∈ group.2,
      ⟨groupRoot code group.1 ++ "." ++ x.1, some group.1,
        Compiler.bytecode (jobFile group.1 x.1) x.2⟩ = m := by
  have members := (compiled_of_compile compiled).members m
  unfold Grouped
  rw [Set.mem_ofPred_eq, members]
  constructor
  · rintro ⟨⟨job, member, rfl⟩ | ⟨package, -, -, rfl⟩, tagged⟩
    · obtain ⟨group, known, x, own, rfl⟩ := mem_jobs.mp member
      exact ⟨group, known, x, own, rfl⟩
    · exact absurd rfl tagged
  · rintro ⟨group, known, x, own, rfl⟩
    exact ⟨.inl ⟨_, mem_jobs.mpr ⟨group, known, x, own, rfl⟩, rfl⟩, fun no => (nomatch no)⟩

/-- Modules of marked groups are moved to another root, with what they are compiled from. -/
theorem relocate_moduleIn (code : Generation) (package group : String) (x : String × String) :
    relocate code package (moduleIn generatedPackage group x) =
      moduleIn (rootWith code package group) group x := by
  have rest : (moduleIn generatedPackage group x).name.toList.drop
      generatedPackage.toList.length = ("." ++ groupPackage group ++ "." ++ x.1).toList := by
    unfold moduleIn
    dsimp only
    rw [String.append_assoc, String.append_assoc, String.append_assoc, String.toList_append,
      List.drop_left, String.append_assoc, String.append_assoc]
  unfold relocate rootWith
  dsimp only [moduleIn] at rest ⊢
  split
  · rw [rest, String.ofList_toList]
    simp only [String.append_assoc]
  · rfl

section Compiled

variable (compiled : compile code = .ok modules) (compiled' : compile code' = .ok modules')
  (none_given : code.externalPackage = none) (given : code'.externalPackage = some package)
  (named : package ≠ "") (groups : code'.groups = code.groups)

include compiled none_given

/-- The modules of groups, without an external package. -/
theorem mem_grouped_of_none : m ∈ Grouped modules ↔
    ∃ group ∈ code.groups, ∃ x ∈ group.2, moduleIn generatedPackage group.1 x = m := by
  rw [mem_grouped compiled]
  simp only [groupRoot_of_none none_given]
  rfl

/-- A module that is moved keeps its group, its bytecode and what tells it apart in its group. -/
theorem relocate_injOn : Set.InjOn (relocate code' package) (Grouped modules) := by
  intro m member m' member' same
  obtain ⟨group, -, x, -, rfl⟩ := (mem_grouped_of_none compiled none_given).mp member
  obtain ⟨group', -, x', -, rfl⟩ := (mem_grouped_of_none compiled none_given).mp member'
  rw [relocate_moduleIn, relocate_moduleIn] at same
  obtain ⟨names, tags, codes⟩ := CompiledModule.mk.inj same
  have sameGroup := Option.some.inj tags
  rw [sameGroup, String.append_right_inj] at names
  unfold moduleIn
  rw [codes, sameGroup, names]

omit compiled none_given

include compiled' given named

/-- The modules of groups, with one. -/
theorem mem_grouped_of_some : m ∈ Grouped modules' ↔
    ∃ group ∈ code'.groups, ∃ x ∈ group.2,
      moduleIn (rootWith code' package group.1) group.1 x = m := by
  rw [mem_grouped compiled']
  simp only [groupRoot_of_some given named]
  rfl

include compiled none_given groups

/-- A relocated module is one of the other code. -/
theorem relocate_mapsTo :
    Set.MapsTo (relocate code' package) (Grouped modules) (Grouped modules') := by
  intro m member
  obtain ⟨group, known, x, own, rfl⟩ := (mem_grouped_of_none compiled none_given).mp member
  rw [relocate_moduleIn, mem_grouped_of_some compiled' given named, groups]
  exact ⟨group, known, x, own, rfl⟩

/-- Every module of the other code is a relocated one. -/
theorem relocate_surjOn :
    Set.SurjOn (relocate code' package) (Grouped modules) (Grouped modules') := by
  intro m member
  obtain ⟨group, known, x, own, rfl⟩ := (mem_grouped_of_some compiled' given named).mp member
  rw [groups] at known
  exact ⟨_, (mem_grouped_of_none compiled none_given).mpr ⟨group, known, x, own, rfl⟩,
    relocate_moduleIn code' package group.1 x⟩

end Compiled

/-! ## With and without an external package -/

/-- How compiled modules are moved by a package for marked groups. -/
structure Relocated (code : Generation) (package : String)
    (modules modules' : List CompiledModule) : Prop where
  before : ∀ m, m ∈ Grouped modules ↔
    ∃ group ∈ code.groups, ∃ x ∈ group.2, moduleIn generatedPackage group.1 x = m
  moved : ∀ group x, code.isExternalizable group = true →
    relocate code package (moduleIn generatedPackage group x) = moduleIn package group x
  source : ∀ group x, relocate code package (moduleIn generatedPackage group x) =
    moduleIn (rootWith code package group) group x
  kept : ∀ m, (∀ group, m.group = some group → code.isExternalizable group = false) →
    relocate code package m = m
  same : ∀ m, (relocate code package m).group = m.group ∧
    (relocate code package m).bytecode = m.bytecode
  bijection : Set.BijOn (relocate code package) (Grouped modules) (Grouped modules')

/-- Code of the same groups compiles to relocated modules. -/
theorem relocated_of_groups (compiled : compile code = .ok modules)
    (compiled' : compile code' = .ok modules') (none_given : code.externalPackage = none)
    (given : code'.externalPackage = some package) (named : package ≠ "")
    (groups : code'.groups = code.groups) : Relocated code' package modules modules' where
  before := fun m => by
    rw [groups]
    exact mem_grouped_of_none compiled none_given
  moved := fun group x marked => by
    rw [relocate_moduleIn, rootWith, if_pos marked]
  source := relocate_moduleIn code' package
  kept := fun _ => relocate_of_not_marked
  same := group_relocate code' package
  bijection := ⟨relocate_mapsTo compiled compiled' none_given given named groups,
    relocate_injOn compiled none_given,
    relocate_surjOn compiled compiled' none_given given named groups⟩

/-- An external package moves whole groups and does nothing else. For every complete graph, every
plan and every package, code is generated with the same groups, modules and texts as without it. The
marked groups are those of units with elements of the external interface. If both compile, the
modules of marked groups are found in the package instead of the package of all others, and all
other modules of groups are found where they were; each is compiled from the same text of the same
file for the same group. -/
theorem relocated_of_external (ready : g.isReady = true) (plan : Plan) (named : package ≠ "") :
    ∃ code code', generate g plan none = .ok code ∧ generate g plan (some package) = .ok code' ∧
      code'.type = code.type ∧ code'.groups = code.groups ∧
      (∀ group, code'.isExternalizable group = true ↔
        ∃ u ∈ plan.units, u.name = group ∧
          ∃ e ∈ g.elementsOf u.repository, Element.externalizable ∈ e.stereotypes) ∧
      ∀ modules modules', compile code = .ok modules → compile code' = .ok modules' →
        Relocated code' package modules modules' := by
  refine ⟨_, _, generate_of_isReady ready plan none, generate_of_isReady ready plan (some package),
    rfl, rfl, isExternalizable_iff g plan package, fun modules modules' compiled compiled' => ?_⟩
  exact relocated_of_groups compiled compiled' rfl rfl named rfl

end Code

/-! ## A group that is moved into the package of another one -/

namespace Sample

/-- Two repositories, one of them with an element of the external interface. -/
def marked : Graph where
  repositories := ⟨[⟨"app", ["core-model"], .ofParts ["app"], by decide⟩,
    ⟨"core-model", [], .ofParts ["core-model"], by decide⟩], by decide, by decide⟩
  state := .ready
  history := []
  elements := [⟨"core_model::A", "app", "/app/a.pure.yaml", [], .enumerationBody ["X"]⟩,
    ⟨"x::B", "core-model", "/core-model/b.pure.yaml", ["externalizable"],
      .enumerationBody ["X"]⟩]
  ascending := by decide

/-- A plan with a unit for each repository of the sample. -/
def markedPlan : Plan := ⟨.modular, [Plan.unitOf "app", Plan.unitOf "core-model"]⟩

attribute [local instance] Code.Compiler.ofFaults

/-- The code of the graph is clean with any dotted package and with none. -/
theorem compilable_marked {external : Code.ExternalPackage}
    (dotted : ∀ package, external = some package → Code.Dotted package) :
    Code.Compilable (Code.ofPlan marked markedPlan external) := by
  have groups : (Code.ofPlan marked markedPlan external).groups =
      (Code.ofPlan marked markedPlan none).groups := rfl
  refine ⟨dotted, ?_, ?_, check_of_faultless ?_⟩
  all_goals
    rw [groups]
    decide +kernel

end Sample

namespace Code

open Sample

attribute [local instance] Compiler.ofFaults in
/-- A group is moved below a module of another group. -/
theorem relocated_sample : marked.isReady = true ∧ "pure_generated.app" ≠ "" ∧
    ∃ code code' modules modules', generate marked markedPlan none = .ok code ∧
      generate marked markedPlan (some "pure_generated.app") = .ok code' ∧
      (jobs code).map Job.name =
        ["pure_generated.app.core_model", "pure_generated.core_model.x"] ∧
      (jobs code').map Job.name =
        ["pure_generated.app.core_model", "pure_generated.app.core_model.x"] ∧
      compile code = .ok modules ∧ compile code' = .ok modules' ∧
      Relocated code' "pure_generated.app" modules modules' := by
  have ready : marked.isReady = true := rfl
  have named : "pure_generated.app" ≠ "" := by decide
  obtain ⟨code, code', generated, generated', -, -, -, relocated⟩ :=
    relocated_of_external ready markedPlan named
  cases generated
  cases generated'
  have names : (jobs (ofPlan marked markedPlan none)).map Job.name =
      ["pure_generated.app.core_model", "pure_generated.core_model.x"] := by decide +kernel
  have names' : (jobs (ofPlan marked markedPlan (some "pure_generated.app"))).map Job.name =
      ["pure_generated.app.core_model", "pure_generated.app.core_model.x"] := by decide +kernel
  have dotted : ∀ package, some "pure_generated.app" = some package → Dotted package := by
    rintro package same
    cases same
    decide
  have undotted : ∀ package, (none : ExternalPackage) = some package → Dotted package :=
    fun _ no => nomatch no
  obtain ⟨modules, compiled, -⟩ :=
    compile_of_distinct (compilable_marked undotted) (by rw [names]; decide)
  obtain ⟨modules', compiled', -⟩ :=
    compile_of_distinct (compilable_marked dotted) (by rw [names']; decide)
  exact ⟨ready, named, _, _, modules, modules', rfl, rfl, names, names', compiled, compiled',
    relocated modules modules' compiled compiled'⟩

end Code

end ModelForge
