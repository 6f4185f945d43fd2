import ModelForge.Metadata.Publish
import ModelForge.Proofs.Code.Modules
import ModelForge.Proofs.Plan.Units
import ModelForge.Proofs.Text.RepositoryNames

/-! # Metadata and code divide a graph in the same way

Both follow the units of a plan. The modules of a unit list the paths that its metadata holds, each
path in the module of its package and nowhere else (`ModelForge.Plan.partition_agrees`).
-/

namespace ModelForge

/-- The name of a repository stands on one line. -/
theorem line_not_mem_of_isRepositoryName {name : String} (legal : isRepositoryName name = true) :
    '\n' ∉ name.toList :=
  not_mem_of_isRepositoryName legal (by decide)

namespace Graph

variable {d : Disk} {s : RepositorySet} {g : Graph} {u : OutputUnit} {e : Element}

theorem repository_of_mem_elementsOf {name : String} (member : e ∈ g.elementsOf (some name)) :
    e.repository = name := beq_iff_eq.mp (List.mem_filter.mp member).2

/-- What the modules of a unit with elements say about their origin stands on one line. -/
theorem line_not_mem_origin [SetOrder] (rebuilt : Rebuilt d s g)
    (member : e ∈ g.elementsOf u.repository) : '\n' ∉ (Code.origin u).toList := by
  unfold Code.origin
  cases same : u.repository with
  | none => decide
  | some name =>
    rw [same] at member
    dsimp only
    split
    · decide
    · have declared := rebuilt.elements.mem_iff.mp (Metadata.mem_elementsOf member)
      have known := RepositorySet.repository_mem_names declared
      rw [repository_of_mem_elementsOf member] at known
      obtain ⟨r, inside, rfl⟩ := RepositorySet.mem_names.mp known
      rw [String.toList_append, List.mem_append]
      exact fun line => line.elim (by decide) (line_not_mem_of_isRepositoryName r.legal)

end Graph

namespace Metadata

variable {g : Graph} {w w' : World} {destination : Path}

/-- A unit is published in its own directory. -/
theorem directory_of_publishStep {modular : Bool} {u : OutputUnit} {directory : Path}
    (published : (publishStep g modular destination u).run.run w = (.ok directory, w')) :
    directory = unitDirectory destination u := by
  unfold publishStep at published
  split at published
  · obtain ⟨start, w₁, -, rest⟩ := Step.run_bind_eq_ok.mp published
    obtain ⟨⟨⟩, w₂, -, rest⟩ := Step.run_bind_eq_ok.mp rest
    obtain ⟨elapsed, w₃, -, last⟩ := Step.run_bind_eq_ok.mp rest
    cases last
    rfl
  · obtain ⟨⟨⟩, w₁, -, last⟩ := Step.run_bind_eq_ok.mp published
    cases last
    rfl

/-- The units of a plan are written one after the other, each into its directory. -/
theorem written_of_publish {plan : Plan} {written : List Path}
    (published : Run.perform (publish g plan destination) w = (.ok written, w')) :
    written = plan.units.map (unitDirectory destination) := by
  have each (units : List OutputUnit) (directories : List Path) (w w' : World)
      (ran : (units.mapM (publishStep g plan.isModular destination)).run.run w =
        (.ok directories, w')) : directories = units.map (unitDirectory destination) := by
    induction units generalizing directories w with
    | nil => exact (Step.run_mapM_nil_eq_ok.mp ran).1
    | cons u units ih =>
      obtain ⟨directory, w₁, rest, first, others, rfl⟩ := Step.run_mapM_cons_eq_ok.mp ran
      rw [directory_of_publishStep first, ih rest w₁ others, List.map_cons]
  unfold Run.perform publish at published
  obtain ⟨start, w₁, -, rest⟩ := Step.run_bind_eq_ok.mp published
  obtain ⟨directories, w₂, ran, rest⟩ := Step.run_bind_eq_ok.mp rest
  obtain ⟨elapsed, w₃, -, last⟩ := Step.run_bind_eq_ok.mp rest
  cases last
  exact each plan.units written w₁ w₂ ran

end Metadata

namespace Code

variable {u : OutputUnit} {es : List Element} {e : Element} {m : String × String}

/-- An element is listed in the module of its package and nowhere else. -/
theorem mem_listed_iff (ascending : Keyed.Ascending Element.path es)
    (placed : ∀ e ∈ es, e.Placed) (free : '\n' ∉ (origin u).toList) (known : m ∈ modulesOf u es)
    (member : e ∈ es) : e.path ∈ listed m.2 ↔ m.1 = moduleName e.package := by
  obtain ⟨package, formed, name, paths⟩ := listed_of_mem_modulesOf placed free known
  rw [paths, name, List.mem_map]
  constructor
  · rintro ⟨e', inside, same⟩
    obtain ⟨member', rfl⟩ := mem_inPackage.mp inside
    rw [Keyed.eq_of_key_eq ascending member' member same]
  · intro same
    have package_eq := moduleName_injective formed (placed e member).package same
    exact ⟨e, mem_inPackage.mpr ⟨member, package_eq.symm⟩, rfl⟩

/-- Each element of a unit is listed in one module, that of its package. -/
theorem exists_listing (ascending : Keyed.Ascending Element.path es)
    (placed : ∀ e ∈ es, e.Placed) (free : '\n' ∉ (origin u).toList) (member : e ∈ es) :
    ∃ m ∈ modulesOf u es, m.1 = moduleName e.package ∧ e.path ∈ listed m.2 ∧
      ∀ m' ∈ modulesOf u es, e.path ∈ listed m'.2 → m' = m := by
  have known : moduleOf u es e.package ∈ modulesOf u es :=
    (mem_modulesOf placed).mpr ⟨e.package, mem_packages.mpr ⟨e, member, rfl⟩, rfl⟩
  refine ⟨_, known, rfl, (mem_listed_iff ascending placed free known member).mpr rfl, ?_⟩
  intro m' known' listing
  have name := (mem_listed_iff ascending placed free known' member).mp listing
  exact List.inj_on_of_nodup_map (nodup_modulesOf u placed) known' known name

/-- Within a module the paths are ascending. -/
theorem pairwise_listed (ascending : Keyed.Ascending Element.path es)
    (placed : ∀ e ∈ es, e.Placed) (free : '\n' ∉ (origin u).toList) (known : m ∈ modulesOf u es) :
    (listed m.2).Pairwise (· < ·) := by
  obtain ⟨package, -, -, paths⟩ := listed_of_mem_modulesOf placed free known
  rw [paths]
  exact List.pairwise_map.mpr (ascending.filter _)

/-- The modules of a unit list the paths of its elements. -/
theorem exists_listed_iff (ascending : Keyed.Ascending Element.path es)
    (placed : ∀ e ∈ es, e.Placed) (free : ∀ e ∈ es, '\n' ∉ (origin u).toList) {path : String} :
    (∃ m ∈ modulesOf u es, path ∈ listed m.2) ↔ path ∈ es.map Element.path := by
  constructor
  · rintro ⟨m, known, listing⟩
    obtain ⟨package, inside, -⟩ := (mem_modulesOf placed).mp known
    obtain ⟨some_e, some_member, -⟩ := mem_packages.mp inside
    obtain ⟨_, -, -, paths⟩ := listed_of_mem_modulesOf placed (free some_e some_member) known
    rw [paths] at listing
    obtain ⟨e, within, rfl⟩ := List.mem_map.mp listing
    exact List.mem_map_of_mem (mem_inPackage.mp within).1
  · intro member
    obtain ⟨e, inside, rfl⟩ := List.mem_map.mp member
    obtain ⟨m, known, -, listing, -⟩ := exists_listing ascending placed (free e inside) inside
    exact ⟨m, known, listing⟩

end Code

namespace Plan

open Preparation (run)

variable {d : Disk} {all : RepositorySet} {selected selection : List String} {cache : Cache}
  {l l' : Log} {miss : Option CacheMiss} {g : Graph} {type : GenerationType} {plan : Plan}

/-- The groups of a plan whose selection names nothing twice are named as its units. -/
theorem names_groups_of_nodup (built : build type selection = .ok plan)
    (once : type = .monolithic ∨ selection.Nodup) (external : Code.ExternalPackage) :
    (Code.ofPlan g plan external).groups.map Prod.fst = plan.units.map OutputUnit.name := by
  have distinct : (plan.units.map OutputUnit.name).Nodup := by
    rw [units_of_build built]
    cases type with
    | monolithic => exact List.nodup_singleton _
    | modular =>
      have nodup := once.resolve_left fun no => (nomatch no)
      change ((selection.map unitOf).map OutputUnit.name).Nodup
      rw [List.map_map]
      exact (List.map_id selection).symm ▸ nodup
  unfold Code.ofPlan
  rw [Named.ofList_of_nodup (by rw [List.map_map]; exact distinct), List.map_map]
  rfl

/-- For every plan the metadata and the code of a rebuilt graph are divided in the same way: the
groups have the names of the units in their order, where a unit that a selection names again is the
same one, and the modules of a group list the paths in the metadata of its unit. Each path is listed
once, in the module of its package, and the paths of a module are ascending. Different packages have
different modules. -/
theorem partition_agrees [SetOrder] (done : run d all selected cache l = (.ok g, miss, l'))
    (rebuilding : GraphState.rebuilding ∈ g.history)
    (built : build type selection = .ok plan) (external : Code.ExternalPackage) :
    ∃ code, Code.generate g plan external = .ok code ∧
      code.groups.map Prod.fst = plan.units.eraseDups.map OutputUnit.name ∧
      (type = .monolithic ∨ selection.Nodup →
        code.groups.map Prod.fst = plan.units.map OutputUnit.name) ∧
      (∀ destination w written w',
        Run.perform (Metadata.publish g plan destination) w = (.ok written, w') →
          written = plan.units.map (Metadata.unitDirectory destination)) ∧
      (∀ e ∈ g.elements, ∀ e' ∈ g.elements,
        Code.moduleName e.package = Code.moduleName e'.package → e.package = e'.package) ∧
      ∀ u ∈ plan.units, ∃ modules, code.groups.lookup u.name = some modules ∧
        (∀ files unit, Metadata.serialize g u = .ok files →
          ∃ read, Metadata.decode unit files = .ok read ∧ read.index.unit = u.name ∧
            ∀ path, path ∈ read.objects.map MetadataObject.path ↔
              ∃ m ∈ modules, path ∈ Code.listed m.2) ∧
        (∀ e ∈ g.elementsOf u.repository,
          ∃ m ∈ modules, m.1 = Code.moduleName e.package ∧ e.path ∈ Code.listed m.2 ∧
            ∀ m' ∈ modules, e.path ∈ Code.listed m'.2 → m' = m) ∧
        ∀ m ∈ modules, (Code.listed m.2).Pairwise (· < ·) := by
  obtain ⟨s, sub, rebuilt⟩ := Graph.rebuilt_of_run done rebuilding
  have placed (e : Element) (member : e ∈ g.elements) : e.Placed :=
    Graph.placed_of_rebuilt rebuilt member
  refine ⟨Code.ofPlan g plan external, if_pos rebuilt.isReady,
    (Code.names_groups g plan external).trans (names_of_build built),
    fun once => names_groups_of_nodup built once external,
    fun _ _ _ _ => Metadata.written_of_publish, ?_, fun u member => ?_⟩
  · intro e inside e' inside' same
    exact Code.moduleName_injective (placed e inside).package (placed e' inside').package same
  have placedIn : ∀ e ∈ g.elementsOf u.repository, e.Placed :=
    fun e inside => placed e (Metadata.mem_elementsOf inside)
  have free : ∀ e ∈ g.elementsOf u.repository, '\n' ∉ (Code.origin u).toList :=
    fun e inside => Graph.line_not_mem_origin rebuilt inside
  have ascending := Metadata.ascending_elementsOf g u.repository
  refine ⟨_, Code.lookup_groups built member external, ?_, ?_, ?_⟩
  · intro files unit written
    have valid : ∀ e ∈ g.elementsOf u.repository, e.Valid :=
      fun e inside => Graph.valid_of_rebuilt rebuilt (Metadata.mem_elementsOf inside)
    obtain ⟨table, decoded, -⟩ := Metadata.decode_of_serialized valid written unit
    refine ⟨_, decoded, rfl, fun path => ?_⟩
    rw [Code.exists_listed_iff ascending placedIn free, List.map_map]
    rfl
  · intro e inside
    exact Code.exists_listing ascending placedIn (free e inside) inside
  · intro m known
    obtain ⟨package, inside, -⟩ := (Code.mem_modulesOf placedIn).mp known
    obtain ⟨e, within, -⟩ := Code.mem_packages.mp inside
    exact Code.pairwise_listed ascending placedIn (free e within) known

attribute [local instance] SetOrder.asWritten in
/-- Both repositories of the small source tree, the core repository last. -/
theorem partition_sample : ∃ g code modules files read,
    Code.generate g ⟨.modular, [unitOf "q", unitOf "platform"]⟩ none = .ok code ∧
    code.groups.map Prod.fst = ["q", "platform"] ∧ code.groups.lookup "q" = some modules ∧
    Metadata.serialize g (unitOf "q") = .ok files ∧
    Metadata.decode (.ofParts []) files = .ok read ∧
    "q::B" ∈ read.objects.map MetadataObject.path ∧
    ∃ m ∈ modules, m.1 = "q" ∧ "q::B" ∈ Code.listed m.2 := by
  obtain ⟨g, miss, l', done, rebuilding, alike⟩ := Sample.exists_run
  have built : build .modular ["q", "platform"] =
    .ok ⟨.modular, [unitOf "q", unitOf "platform"]⟩ := rfl
  obtain ⟨code, generated, -, names, -, -, units⟩ :=
    partition_agrees done rebuilding built none
  obtain ⟨modules, found, metadata, listing, -⟩ := units (unitOf "q") List.mem_cons_self
  have computed : (Metadata.serialize Sample.graph (unitOf "q")).toOption.isSome = true := by
    decide +kernel
  obtain ⟨files, written⟩ := Result.exists_of_isSome computed
  have written' : Metadata.serialize g (unitOf "q") = .ok files := by
    rw [alike.eq]
    exact written
  obtain ⟨read, decoded, -, paths⟩ := metadata files (.ofParts []) written'
  have inside : (⟨"q::B", "q", "/q/b.pure.yaml", [], .classBody ["p::A"] []⟩ : Element) ∈
      g.elementsOf (some "q") := by
    change _ ∈ g.elements.filter _
    rw [alike.elements]
    decide
  obtain ⟨m, known, module, listed, -⟩ := listing _ inside
  refine ⟨g, code, modules, files, read, generated, names (.inr (by decide)), found, written',
    decoded, (paths _).mpr ⟨m, known, listed⟩, m, known, module.trans (by decide), listed⟩

end Plan

end ModelForge
