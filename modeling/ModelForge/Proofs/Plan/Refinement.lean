import ModelForge.Proofs.Code.Modules
import ModelForge.Proofs.Plan.Units

/-! # Units of repositories and the unit of the whole graph

A modular plan divides what the monolithic one holds together. The objects of its units, sorted by
path, are those of the whole graph whose repositories are selected, and a module of a repository
holds that part of the module of the whole graph which belongs to the repository
(`ModelForge.Plan.modular_refines_monolithic`).
-/

namespace ModelForge

namespace Code

/-- The text of a module that holds these elements, if there are any: a head that says where they
come from, and behind two empty lines the lines of each element. -/
def moduleText (origin : String) (es : List Element) : Option String :=
  if es = [] then none
  else some (String.intercalate "\n"
    (headLines origin es ++ es.flatMap fun e => "" :: "" :: elementLines e) ++ "\n")

variable {g : Graph} {name package : String}

/-- The module of a package in the unit of the whole graph. -/
theorem lookup_wholeUnit (placed : ∀ e ∈ g.elements, e.Placed)
    (formed : isElementPath package = true) :
    (modulesOf Plan.wholeUnit (g.elementsOf none)).lookup (moduleName package) =
      moduleText "all repositories" (inPackage g.elements package) :=
  lookup_modulesOf Plan.wholeUnit placed formed

/-- The module of a package in the unit of a repository. -/
theorem lookup_unitOf (placed : ∀ e ∈ g.elements, e.Placed)
    (formed : isElementPath package = true) (some_name : name.isEmpty = false) :
    (modulesOf (Plan.unitOf name) (g.elementsOf (some name))).lookup (moduleName package) =
      moduleText ("repository " ++ name)
        ((inPackage g.elements package).filter fun e => e.repository == name) := by
  have own : inPackage (g.elementsOf (some name)) package =
      (inPackage g.elements package).filter fun e => e.repository == name := by
    unfold inPackage
    exact List.filter_comm _ _ g.elements
  have told : origin (Plan.unitOf name) = "repository " ++ name := by
    unfold origin Plan.unitOf
    dsimp only
    rw [some_name]
    rfl
  rw [lookup_modulesOf _ (fun e inside => placed e (Metadata.mem_elementsOf inside)) formed, own,
    told]
  rfl

end Code

namespace Metadata

variable {g : Graph} {e : Element} {name : String}

/-- The objects of a repository are those of the whole graph that state its name. -/
theorem objects_unitOf (g : Graph) (name : String) :
    (g.elementsOf (some name)).map Element.toObject =
      (g.elements.map Element.toObject).filter fun o => o.repository == name := by
  rw [List.filter_map]
  rfl

/-- The objects of some repositories, each taken once, sorted by path. -/
theorem mergeSort_objects (g : Graph) (names : List String) :
    ((names.eraseDups.flatMap fun name => (g.elementsOf (some name)).map Element.toObject).mergeSort
        fun a b => decide (a.path ≤ b.path)) =
      (g.elements.map Element.toObject).filter fun o => names.contains o.repository := by
  have ascending : Keyed.Ascending MetadataObject.path (g.elements.map Element.toObject) :=
    List.pairwise_map.mpr g.ascending
  refine Keyed.mergeSort_of_perm (ascending.filter _) ?_
  have same := Keyed.perm_flatMap_filter MetadataObject.repository
    (g.elements.map Element.toObject) (nodup_eraseDups names)
  refine .trans (.of_eq ?_) (same.trans (.of_eq ?_))
  · exact congrArg (List.flatMap · names.eraseDups) (funext (objects_unitOf g))
  · refine List.filter_congr fun o _ => ?_
    rw [Bool.eq_iff_iff, List.contains_iff_mem, List.contains_iff_mem, List.mem_eraseDups]

/-- The path of an element stands in the unit of its repository and in no other one. -/
theorem path_mem_unitOf (member : e ∈ g.elements) :
    e.path ∈ ((g.elementsOf (some name)).map Element.toObject).map MetadataObject.path ↔
      e.repository = name := by
  rw [List.map_map]
  constructor
  · intro inside
    obtain ⟨e', within, same⟩ := List.mem_map.mp inside
    obtain ⟨member', own⟩ := List.mem_filter.mp within
    rw [Keyed.eq_of_key_eq g.ascending member member' same.symm]
    exact beq_iff_eq.mp own
  · intro own
    exact List.mem_map.mpr ⟨e, List.mem_filter.mpr ⟨member, beq_iff_eq.mpr own⟩, rfl⟩

/-- The units of a graph with valid elements are read back, each to the objects of its elements. -/
theorem exists_read {disk : Disk} {files : OutputUnit → UnitFiles} {place : OutputUnit → Path}
    {units : List OutputUnit} (valid : ∀ e ∈ g.elements, e.Valid) (any : units ≠ [])
    (written : ∀ u ∈ units, serialize g u = .ok (files u))
    (stored : ∀ u ∈ units, Stored disk (place u) (files u)) :
    ∃ read : OutputUnit → MetadataUnit, ∀ u ∈ units, readUnit disk (place u) = .ok (read u) ∧
      (read u).objects = (g.elementsOf u.repository).map Element.toObject := by
  have each (u : OutputUnit) (member : u ∈ units) : ∃ read, readUnit disk (place u) = .ok read ∧
      read.objects = (g.elementsOf u.repository).map Element.toObject := by
    obtain ⟨table, decoded, readIndex⟩ := decode_of_serialized
      (fun e inside => valid e (mem_elementsOf inside)) (written u member) (place u)
    exact ⟨_, (readUnit_of_stored (stored u member) readIndex).trans decoded, rfl⟩
  obtain ⟨u, member⟩ := List.exists_mem_of_ne_nil units any
  have : Nonempty MetadataUnit := (each u member).nonempty
  choose! read known objects using each
  exact ⟨read, fun u member => ⟨known u member, objects u member⟩⟩

end Metadata

namespace Plan

open Preparation (run)

variable {d disk : Disk} {all : RepositorySet} {selected chosen : List String} {cache : Cache}
  {l l' : Log} {miss : Option CacheMiss} {g : Graph} {plan wholePlan : Plan}

/-- The units of a modular plan hold together what the unit of the whole graph holds of the chosen
repositories. Read back and sorted by path, the objects are the same in every field. Each element of
a chosen repository is in one unit, and the others are in none. A module of a repository holds its
elements of the whole module in their order and with the same lines. -/
theorem modular_refines_monolithic [SetOrder]
    (done : run d all selected cache l = (.ok g, miss, l'))
    (rebuilding : GraphState.rebuilding ∈ g.history) (built : build .modular chosen = .ok plan)
    (builtWhole : build .monolithic chosen = .ok wholePlan)
    {files : OutputUnit → UnitFiles} {place : OutputUnit → Path}
    (written : ∀ u ∈ wholePlan.units ++ plan.units, Metadata.serialize g u = .ok (files u))
    (stored : ∀ u ∈ wholePlan.units ++ plan.units, Metadata.Stored disk (place u) (files u))
    (external external' : Code.ExternalPackage) :
    wholePlan.units = [wholeUnit] ∧
    (∃ read : OutputUnit → MetadataUnit,
      (∀ u ∈ wholePlan.units ++ plan.units,
        Metadata.readUnit disk (place u) = .ok (read u)) ∧
      (read wholeUnit).objects = g.elements.map Element.toObject ∧
      ((plan.units.eraseDups.flatMap fun u => (read u).objects).mergeSort
          fun a b => decide (a.path ≤ b.path)) =
        (read wholeUnit).objects.filter (fun o => chosen.contains o.repository) ∧
      ∀ e ∈ g.elements,
        (e.repository ∈ chosen → ∃ u ∈ plan.units, e.toObject ∈ (read u).objects ∧
          ∀ u' ∈ plan.units, e.path ∈ (read u').objects.map MetadataObject.path → u' = u) ∧
        (e.repository ∉ chosen → ∀ u ∈ plan.units,
          e.path ∉ (read u).objects.map MetadataObject.path)) ∧
    ∃ code wholeCode whole, Code.generate g plan external = .ok code ∧
      Code.generate g wholePlan external' = .ok wholeCode ∧
      wholeCode.groups.lookup wholeName = some whole ∧
      ∀ name ∈ chosen, ∃ group, code.groups.lookup name = some group ∧
        ∀ package, isElementPath package = true →
          whole.lookup (Code.moduleName package) =
            Code.moduleText "all repositories" (Code.inPackage g.elements package) ∧
          group.lookup (Code.moduleName package) =
            Code.moduleText ("repository " ++ name)
              ((Code.inPackage g.elements package).filter fun e => e.repository == name) := by
  obtain ⟨s, sub, rebuilt⟩ := Graph.rebuilt_of_run done rebuilding
  have placed (e : Element) (member : e ∈ g.elements) : e.Placed :=
    Graph.placed_of_rebuilt rebuilt member
  have units : plan.units = chosen.map unitOf := units_of_build built
  cases builtWhole
  refine ⟨rfl, ?_, ?_⟩
  · obtain ⟨read, each⟩ := Metadata.exists_read
      (fun e member => Graph.valid_of_rebuilt rebuilt member) (List.cons_ne_nil _ _) written stored
    have whole : (read wholeUnit).objects = g.elements.map Element.toObject :=
      (each wholeUnit List.mem_cons_self).2
    have own (name : String) (known : name ∈ chosen) : (read (unitOf name)).objects =
        (g.elementsOf (some name)).map Element.toObject :=
      (each _ (List.mem_cons_of_mem _ ((mem_units_of_build built).mpr known))).2
    have inUnit (e : Element) (member : e ∈ g.elements) (u : OutputUnit) (known : u ∈ plan.units) :
        e.path ∈ (read u).objects.map MetadataObject.path ↔ unitOf e.repository = u := by
      rw [units] at known
      obtain ⟨name, inside, rfl⟩ := List.mem_map.mp known
      rw [own name inside, Metadata.path_mem_unitOf member, unitOf_injective.eq_iff]
    refine ⟨read, fun u member => (each u member).1, whole, ?_, fun e member => ⟨?_, ?_⟩⟩
    · rw [units, eraseDups_map unitOf_injective, List.flatMap_map, whole,
        ← Metadata.mergeSort_objects]
      congr 1
      exact List.flatMap_congr fun name known => own name (List.mem_eraseDups.mp known)
    · intro known
      refine ⟨unitOf e.repository, (mem_units_of_build built).mpr known, ?_, ?_⟩
      · rw [own _ known]
        exact List.mem_map_of_mem (List.mem_filter.mpr ⟨member, beq_self_eq_true _⟩)
      · intro u' known' listed
        exact ((inUnit e member u' known').mp listed).symm
    · intro unknown u known listed
      have same := (inUnit e member u known).mp listed
      exact unknown ((mem_units_of_build built).mp (same ▸ known))
  · have whole : (Code.ofPlan g ⟨.monolithic, [wholeUnit]⟩ external').groups.lookup wholeName =
        some (Code.modulesOf wholeUnit (g.elementsOf none)) := rfl
    refine ⟨Code.ofPlan g plan external, _, _, if_pos rebuilt.isReady, if_pos rebuilt.isReady,
      whole, ?_⟩
    intro name known
    refine ⟨_, Code.lookup_groups built ((mem_units_of_build built).mpr known) external, ?_⟩
    intro package formed
    exact ⟨Code.lookup_wholeUnit placed formed,
      Code.lookup_unitOf placed formed (isEmpty_of_build built known)⟩

end Plan

namespace Sample

open Plan (wholeUnit unitOf)

/-- The files of a unit of the small source tree. -/
def filesOf (u : OutputUnit) : UnitFiles :=
  (Metadata.serialize graph u).toOption.getD ⟨[], [], []⟩

/-- The directory of a unit. -/
def placeOf (u : OutputUnit) : Path := .ofParts [u.name]

/-- A disk with the units of the whole graph and of one repository. -/
def unitsDisk : Disk :=
  ⟨[], [wholeUnit, unitOf "q"].flatMap fun u =>
    ([u.name], .directory) :: (filesOf u).inOrder.map fun f => ([u.name, f.1], .file f.2)⟩

/-- The files of the sample's units. -/
theorem serialize_filesOf :
    ∀ u ∈ [wholeUnit, unitOf "q"], Metadata.serialize graph u = .ok (filesOf u) := by
  have computed : ∀ u ∈ [wholeUnit, unitOf "q"],
      (Metadata.serialize graph u).toOption.isSome = true := by
    decide +kernel
  intro u member
  obtain ⟨made, written⟩ := Result.exists_of_isSome (computed u member)
  unfold filesOf
  rw [written]
  rfl

/-- The files of the sample's units are stored where the plan puts them. -/
theorem stored_filesOf :
    ∀ u ∈ [wholeUnit, unitOf "q"], Metadata.Stored unitsDisk (placeOf u) (filesOf u) := by
  have located : ∀ u ∈ [wholeUnit, unitOf "q"], ∀ name ∈ (filesOf u).inOrder.map Prod.fst,
      (unitsDisk.locateFor ((placeOf u).append (.ofParts [name]))).toOption =
        some [u.name, name] := by
    decide +kernel
  have entries : ∀ u ∈ [wholeUnit, unitOf "q"], ∀ f ∈ (filesOf u).inOrder,
      unitsDisk.entry? [u.name, f.1] = some (.file f.2) := by
    intro u member f inside
    simp only [List.mem_cons, List.not_mem_nil, or_false, UnitFiles.inOrder] at member inside
    rcases member with rfl | rfl <;> rcases inside with rfl | rfl | rfl <;> rfl
  exact fun u member =>
    Metadata.stored_of_entries [u.name] (located u member) (entries u member)

end Sample

namespace Plan

attribute [local instance] SetOrder.asWritten in
/-- One repository of the small source tree beside the whole of it. -/
theorem modular_sample : ∃ (g : Graph) (disk : Disk) (place : OutputUnit → Path)
    (own whole : MetadataUnit) (code wholeCode : Generation) (group modules : ModuleTexts),
    Metadata.readUnit disk (place (unitOf "q")) = .ok own ∧
    Metadata.readUnit disk (place wholeUnit) = .ok whole ∧
    (own.objects.mergeSort fun a b => decide (a.path ≤ b.path)) =
      whole.objects.filter (fun o => o.repository == "q") ∧
    Code.generate g ⟨.modular, [unitOf "q"]⟩ none = .ok code ∧
    Code.generate g ⟨.monolithic, [wholeUnit]⟩ none = .ok wholeCode ∧
    code.groups.lookup "q" = some group ∧ wholeCode.groups.lookup wholeName = some modules ∧
    modules.lookup "p" = Code.moduleText "all repositories" (Sample.elements.take 1) ∧
    group.lookup "p" = none ∧
    group.lookup "q" = Code.moduleText "repository q" (Sample.elements.drop 1) := by
  obtain ⟨g, miss, l', done, rebuilding, alike⟩ := Sample.exists_run
  have built : build .modular ["q"] = .ok ⟨.modular, [unitOf "q"]⟩ := rfl
  have builtWhole : build .monolithic ["q"] = .ok ⟨.monolithic, [wholeUnit]⟩ := rfl
  have written : ∀ u ∈ [wholeUnit, unitOf "q"],
      Metadata.serialize g u = .ok (Sample.filesOf u) := by
    rw [alike.eq]
    exact Sample.serialize_filesOf
  obtain ⟨-, ⟨read, known, -, merged, -⟩, code, wholeCode, modules, generated, generatedWhole,
    found, groups⟩ := modular_refines_monolithic done rebuilding built builtWhole written
      Sample.stored_filesOf none none
  obtain ⟨group, foundGroup, texts⟩ := groups "q" (List.mem_singleton_self _)
  obtain ⟨wholeText, noText⟩ := texts "p" (by decide)
  obtain ⟨-, text⟩ := texts "q" (by decide)
  rw [alike.elements] at wholeText noText text
  have one : ([unitOf "q"].eraseDups.flatMap fun u => (read u).objects) =
      (read (unitOf "q")).objects := List.append_nil _
  rw [one] at merged
  refine ⟨g, _, _, read (unitOf "q"), read wholeUnit, code, wholeCode, group, modules,
    known _ (by simp), known _ (by simp), merged.trans ?_, generated, generatedWhole, foundGroup,
    found, wholeText, noText, text⟩
  exact List.filter_congr fun o _ => Bool.or_false (o.repository == "q")

end Plan

end ModelForge
