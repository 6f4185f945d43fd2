import ModelForge.Code.Compile
import ModelForge.Proofs.Code.Modules
import ModelForge.Proofs.Plan.Units
import ModelForge.Proofs.Text.RepositoryNames
import ModelForge.Repository.Discovery
import ModelForge.Settings

/-! # Which compiled modules can be imported

The full name of a compiled module is put together from a root package, the package of its group and
the name of a generated module. It can stand in an import statement if each of its parts is an
identifier that is no reserved word. The names of generated modules always are of this kind
(`ModelForge.Code.importable_moduleName`). The name of a repository may be a reserved word, and so
may a part of the external package, which may end in a line end as well; apart from that every
module can be imported (`ModelForge.Code.importable_iff`).
-/

namespace ModelForge

namespace Code

/-- A dotted name that can stand in an import statement: each part is an identifier and no reserved
word. -/
def Importable (name : String) : Prop :=
  ∀ part ∈ nameParts name, isIdentifier part = true ∧ Identifier.isReserved part = false

variable {a b name : String}

/-- A name joined by a dot is importable exactly if both parts are. -/
theorem importable_append : Importable (a ++ "." ++ b) ↔ Importable a ∧ Importable b := by
  unfold Importable
  rw [nameParts_append, List.forall_mem_append]

/-- Well-formed segments are identifiers. -/
theorem isIdentifier_of_segments {segments : List (List Char)}
    (formed : segments.all Identifier.wellFormed = true) {part : String}
    (member : part ∈ segments.map String.ofList) : isIdentifier part = true := by
  obtain ⟨seg, inside, rfl⟩ := List.mem_map.mp member
  unfold isIdentifier
  rw [String.toList_ofList]
  exact List.all_eq_true.mp formed seg inside

/-- Modules of packages that a source file may name can be imported. -/
theorem importable_moduleName (valid : Source.ValidPackage name) :
    Importable (moduleName name) := by
  unfold Importable
  rw [nameParts_moduleName valid.formed]
  intro segment member
  exact ⟨isIdentifier_of_segments valid.formed member, valid.unreserved segment member⟩

theorem importable_generatedPackage : Importable generatedPackage := by
  unfold Importable
  decide

/-! ## Packages of groups -/

/-- The package of a group has underscores for hyphens. -/
theorem toList_groupPackage (name : String) :
    (groupPackage name).toList = name.toList.map fun c => if c = '-' then '_' else c :=
  String.toList_ofList

/-- The letters of the package of a group are underscores or letters of its name. -/
theorem mem_groupPackage {c : Char} (member : c ∈ (groupPackage name).toList) :
    c = '_' ∨ c ∈ name.toList := by
  rw [toList_groupPackage] at member
  obtain ⟨d, inside, rfl⟩ := List.mem_map.mp member
  split
  · exact .inl rfl
  · exact .inr inside

/-- A name without a hyphen is the package of its group. -/
theorem groupPackage_of_not_mem (free : '-' ∉ name.toList) : groupPackage name = name := by
  apply String.toList_inj.mp
  rw [toList_groupPackage]
  have kept (c : Char) (member : c ∈ name.toList) : (if c = '-' then '_' else c) = c :=
    if_neg fun same : c = '-' => free (same ▸ member)
  exact (List.map_congr_left kept).trans (List.map_id _)

/-- Reserved words are made of letters. -/
theorem isAlpha_of_isReserved (reserved : Identifier.isReserved name = true) :
    ∀ c ∈ name.toList, c.isAlpha = true := by
  have words : (Identifier.reserved.all fun word => word.toList.all Char.isAlpha) = true := by
    decide +kernel
  exact List.all_eq_true.mp (List.all_eq_true.mp words name (List.contains_iff_mem.mp reserved))

/-- Writing underscores for hyphens does not make a reserved word, and does not undo one. -/
theorem isReserved_groupPackage (name : String) :
    Identifier.isReserved (groupPackage name) = Identifier.isReserved name := by
  by_cases hyphen : '-' ∈ name.toList
  · have underscore : '_' ∈ (groupPackage name).toList := by
      rw [toList_groupPackage]
      exact List.mem_map.mpr ⟨'-', hyphen, if_pos rfl⟩
    have one : Identifier.isReserved (groupPackage name) = false := by
      apply Bool.eq_false_iff.mpr
      intro reserved
      exact absurd (isAlpha_of_isReserved reserved '_' underscore) (by decide)
    have other : Identifier.isReserved name = false := by
      apply Bool.eq_false_iff.mpr
      intro reserved
      exact absurd (isAlpha_of_isReserved reserved '-' hyphen) (by decide)
    rw [one, other]
  · rw [groupPackage_of_not_mem hyphen]

/-- The package of a group with a legal name is an identifier. -/
theorem isIdentifier_groupPackage (legal : isRepositoryName name = true) :
    isIdentifier (groupPackage name) = true := by
  obtain ⟨first, rest, shape, lower⟩ := head_of_isRepositoryName legal
  have letters := letters_of_isRepositoryName legal
  rw [shape] at letters
  unfold isIdentifier
  rw [toList_groupPackage, shape, List.map_cons]
  have start : Identifier.isStart (if first = '-' then '_' else first) = true := by
    split
    · rfl
    · exact Identifier.isStart_of_isLower lower
  refine (Bool.and_eq_true _ _).mpr ⟨start, ?_⟩
  rw [List.all_map, List.all_eq_true]
  intro c member
  have letter := letters c (List.mem_cons_of_mem first member)
  rw [Function.comp_apply]
  split
  · rfl
  · next no =>
    simp only [Bool.or_eq_true, beq_iff_eq] at letter
    rcases letter with ((small | digit) | underscore) | hyphen
    · exact Identifier.isPart_of_isStart (Identifier.isStart_of_isLower small)
    · exact Identifier.isPart_of_isDigit digit
    · rw [underscore]
      rfl
    · exact absurd hyphen no

/-- The package of a group can be imported unless its repository is named by a reserved word. -/
theorem importable_groupPackage (legal : isRepositoryName name = true) :
    Importable (groupPackage name) ↔ Identifier.isReserved name = false := by
  have point : '.' ∉ (groupPackage name).toList := by
    intro member
    rcases mem_groupPackage member with same | inside
    · exact absurd same (by decide)
    · exact not_mem_of_isRepositoryName legal (by decide) inside
  unfold Importable
  rw [nameParts_of_not_mem point, List.forall_mem_singleton, isIdentifier_groupPackage legal,
    isReserved_groupPackage]
  exact and_iff_right rfl

/-! ## External packages -/

/-- What keeps an accepted external package from being imported: a reserved word or the line end
that may follow it. -/
theorem importable_external {package : String}
    (accepted : Settings.isExternalPackage package = true) : Importable package ↔
      (∀ part ∈ nameParts package, Identifier.isReserved part = false) ∧
        package.toList.getLast? ≠ some '\n' := by
  unfold Settings.isExternalPackage at accepted
  dsimp only at accepted
  by_cases line : package.toList.getLast? = some '\n'
  · refine ⟨fun importable => ?_, fun clean => absurd line clean.2⟩
    -- the line end is no part of an identifier, but it is in one of the parts
    obtain ⟨seg, inside, within⟩ := Segments.exists_mem_splitOn
      (List.mem_of_mem_getLast? line) (by decide : '\n' ≠ '.')
    have formed := (importable _ (List.mem_map_of_mem inside)).1
    unfold isIdentifier at formed
    rw [String.toList_ofList] at formed
    exact absurd (Identifier.isPart_of_mem formed within) (by decide)
  · rw [if_neg line] at accepted
    have formed : ∀ part ∈ nameParts package, isIdentifier part = true :=
      fun part member => isIdentifier_of_segments accepted member
    constructor
    · intro importable
      exact ⟨fun part member => (importable part member).2, line⟩
    · intro clean part member
      exact ⟨formed part member, clean.1 part member⟩

theorem isEmpty_of_isExternalPackage {package : String}
    (accepted : Settings.isExternalPackage package = true) : package.isEmpty = false := by
  cases empty : package.isEmpty with
  | false => rfl
  | true =>
    rw [String.isEmpty_iff.mp empty] at accepted
    cases accepted

/-- A package that is given has an accepted name. -/
theorem external_eq_some {settings : Settings} (accepted : settings.checkExternal = .valid settings)
    {package : String} (given : settings.external = some package) :
    Settings.isExternalPackage package = true := by
  unfold Settings.external at given
  split at given
  · next asked =>
    cases given
    unfold Settings.checkExternal at accepted
    rw [asked, Bool.true_and] at accepted
    split at accepted
    · cases accepted
    · next proper => simpa using proper
  · cases given

/-! ## The modules that are compiled -/

/-- Modules compile into a package of their group, which lies in the external package or in the
package of all others. -/
theorem groupRoot_cases (code : Generation) (group : String) : ∃ root,
    (code.externalPackage = some root ∨ root = generatedPackage) ∧
      groupRoot code group = root ++ "." ++ groupPackage group := by
  unfold groupRoot
  split
  · next package given =>
    split
    · exact ⟨package, .inl given, rfl⟩
    · exact ⟨_, .inr rfl, rfl⟩
  · exact ⟨_, .inr rfl, rfl⟩

/-- The jobs of generated code are its modules. -/
theorem mem_jobs {code : Generation} {job : Job} :
    job ∈ jobs code ↔ ∃ group ∈ code.groups, ∃ m ∈ group.2,
      ⟨group.1, jobFile group.1 m.1, groupRoot code group.1 ++ "." ++ m.1, m.2⟩ = job := by
  unfold jobs
  simp only [List.mem_flatMap, List.mem_map]

/-- Jobs that compile without diagnostics are all taken. -/
theorem compileJobs_eq [Compiler] {compiled js out : List Job}
    (done : compileJobs compiled js = .ok (out, [])) : out = compiled ++ js := by
  induction js generalizing compiled with
  | nil =>
    cases done
    exact (List.append_nil _).symm
  | cons job rest ih =>
    unfold compileJobs at done
    split at done
    · obtain ⟨others, -, none_left⟩ := Result.bind_eq_ok.mp done
      cases none_left
    · obtain ⟨_, -, done⟩ := Result.bind_eq_ok.mp done
      obtain ⟨complaint, -, done⟩ := Result.bind_eq_ok.mp done
      split at done
      · obtain ⟨others, -, none_left⟩ := Result.bind_eq_ok.mp done
        cases none_left
      · rw [ih done, List.append_assoc, List.singleton_append]

/-- A compiled module has the name it was made with. -/
theorem name_of_make {group : Option String} {bytecode : Octets} {m : CompiledModule}
    (made : CompiledModule.make name group bytecode = .ok m) : m.name = name := by
  unfold CompiledModule.make at made
  split at made
  · cases made
  · cases made
    rfl

theorem compilePackage_eq_ok [Compiler] {m : CompiledModule} (done : compilePackage name = .ok m) :
    CompiledModule.make name none (Compiler.bytecode (packageFile name) "") = .ok m := by
  obtain ⟨_, -, made⟩ := Result.bind_eq_ok.mp done
  exact made

/-- Packages are added above the given names. -/
theorem mem_addedPackages {names : List String} :
    name ∈ addedPackages names ↔ name ∉ names ∧ ∃ n ∈ names, name ∈ ancestors n := by
  unfold addedPackages
  rw [Names.mem_ofList, List.mem_filter, List.mem_flatMap, and_comm, Bool.not_eq_true',
    Bool.eq_false_iff, ne_eq, List.contains_iff_mem]

/-- The modules of compiled code are those to be compiled and packages above them. -/
theorem mem_names_of_compile [Compiler] {code : Generation} {modules : List CompiledModule}
    (done : compile code = .ok modules) :
    (∀ job ∈ jobs code, ∃ m ∈ modules, m.name = job.name) ∧
      ∀ m ∈ modules, ∃ job ∈ jobs code, m.name = job.name ∨ m.name ∈ ancestors job.name := by
  obtain ⟨⟨compiled, diagnostics⟩, each, done⟩ := Result.bind_eq_ok.mp done
  split at done
  · next same =>
    cases same
    have whole : compiled = jobs code := compileJobs_eq each
    subst whole
    obtain ⟨packages, added, made⟩ := Result.bind_eq_ok.mp done
    cases made
    constructor
    · intro job member
      refine ⟨job.compiled, List.mem_mergeSort.mpr ?_, rfl⟩
      exact List.mem_append_left _ (List.mem_map.mpr ⟨job, member, rfl⟩)
    · intro m member
      rcases List.mem_append.mp (List.mem_mergeSort.mp member) with own | package
      · obtain ⟨job, inside, rfl⟩ := List.mem_map.mp own
        exact ⟨job, inside, .inl rfl⟩
      · obtain ⟨above, listed, made⟩ := Result.exists_of_mem_results added package
        obtain ⟨-, n, among, higher⟩ := mem_addedPackages.mp listed
        obtain ⟨job, inside, rfl⟩ := List.mem_map.mp among
        exact ⟨job, inside, .inr (name_of_make (compilePackage_eq_ok made) ▸ higher)⟩
  · cases done

/-- The parts of a name above a name are among its parts. -/
theorem importable_of_mem_ancestors (importable : Importable name) (above : a ∈ ancestors name) :
    Importable a := by
  obtain ⟨k, -, same⟩ := List.mem_filterMap.mp above
  split at same
  · cases same
  · next positive =>
    cases same
    have within : ∀ part ∈ (nameParts name).take k, part ∈ nameParts name :=
      fun part member => List.mem_of_mem_take member
    have some_part : (nameParts name).take k ≠ [] := by
      intro none
      rcases List.take_eq_nil_iff.mp none with zero | empty
      · exact positive zero
      · exact nameParts_ne_nil name empty
    unfold Importable
    rw [nameParts_intercalate some_part fun part member =>
      not_mem_of_mem_nameParts (within part member)]
    exact fun part member => importable part (within part member)

/-- All modules of compiled code can be imported if those to be compiled can. -/
theorem importable_of_compile [Compiler] {code : Generation} {modules : List CompiledModule}
    (done : compile code = .ok modules) :
    (∀ m ∈ modules, Importable m.name) ↔ ∀ job ∈ jobs code, Importable job.name := by
  obtain ⟨all_there, all_known⟩ := mem_names_of_compile done
  constructor
  · intro importable job member
    obtain ⟨m, inside, same⟩ := all_there job member
    exact same ▸ importable m inside
  · intro importable m member
    obtain ⟨job, inside, same | above⟩ := all_known m member
    · exact same ▸ importable job inside
    · exact importable_of_mem_ancestors (importable job inside) above

/-! ## The modules of a plan -/

section

variable {g : Graph} {type : GenerationType} {names : List String} {plan : Plan}
  {external : ExternalPackage} {u : OutputUnit} {d : Disk} {s : RepositorySet}

/-- The package above the groups that the modules of a unit compile into. -/
def rootOf (g : Graph) (external : ExternalPackage) (u : OutputUnit) : String :=
  match external with
  | some package =>
    if (g.elementsOf u.repository).any Element.isExternalizable && !package.isEmpty then package
    else generatedPackage
  | none => generatedPackage

/-- The job for a module of a unit. -/
def jobOf (g : Graph) (external : ExternalPackage) (u : OutputUnit) (m : String × String) : Job :=
  ⟨u.name, jobFile u.name m.1,
    rootOf g external u ++ "." ++ groupPackage u.name ++ "." ++ m.1, m.2⟩

/-- The full name of a group in planned code. -/
theorem groupRoot_ofPlan (built : Plan.build type names = .ok plan) (member : u ∈ plan.units) :
    groupRoot (ofPlan g plan external) u.name =
      rootOf g external u ++ "." ++ groupPackage u.name := by
  cases external with
  | none => rfl
  | some package =>
    have given : (ofPlan g plan (some package)).externalPackage = some package := rfl
    unfold groupRoot rootOf
    rw [given]
    dsimp only
    rw [isExternalizable_ofPlan built member]
    split <;> rfl

/-- Each module of a unit is compiled, and nothing else is. -/
theorem mem_jobs_ofPlan (built : Plan.build type names = .ok plan) {job : Job} :
    job ∈ jobs (ofPlan g plan external) ↔ ∃ u ∈ plan.units,
      ∃ m ∈ modulesOf u (g.elementsOf u.repository), jobOf g external u m = job := by
  rw [mem_jobs]
  unfold jobOf
  constructor
  · rintro ⟨group, known, m, own, rfl⟩
    obtain ⟨u, member, rfl⟩ := mem_groups known
    rw [groupRoot_ofPlan built member]
    exact ⟨u, member, m, own, rfl⟩
  · rintro ⟨u, member, m, own, rfl⟩
    rw [← groupRoot_ofPlan built member]
    exact ⟨_, (mem_groups_iff built).mpr ⟨u, member, rfl⟩, m, own, rfl⟩

/-- The modules of a unit can be imported if the packages above them can. -/
theorem importable_jobs_iff (built : Plan.build type names = .ok plan)
    (placed : ∀ e ∈ g.elements, e.Placed)
    (valid : ∀ e ∈ g.elements, Source.ValidPackage e.package) :
    (∀ job ∈ jobs (ofPlan g plan external), Importable job.name) ↔
      ∀ u ∈ plan.units, g.elementsOf u.repository ≠ [] →
        Importable (rootOf g external u) ∧ Importable (groupPackage u.name) := by
  have placedIn (u : OutputUnit) : ∀ e ∈ g.elementsOf u.repository, e.Placed :=
    fun e inside => placed e (Metadata.mem_elementsOf inside)
  constructor
  · intro importable u member some_element
    obtain ⟨e, inside⟩ := List.exists_mem_of_ne_nil _ some_element
    have own : moduleOf u (g.elementsOf u.repository) e.package ∈
        modulesOf u (g.elementsOf u.repository) :=
      (mem_modulesOf (placedIn u)).mpr ⟨e.package, mem_packages.mpr ⟨e, inside, rfl⟩, rfl⟩
    have whole := importable _ ((mem_jobs_ofPlan built).mpr ⟨u, member, _, own, rfl⟩)
    exact importable_append.mp (importable_append.mp whole).1
  · intro above job compiled
    obtain ⟨u, member, m, own, rfl⟩ := (mem_jobs_ofPlan built).mp compiled
    obtain ⟨package, known, rfl⟩ := (mem_modulesOf (placedIn u)).mp own
    obtain ⟨e, inside, rfl⟩ := mem_packages.mp known
    have packages := above u member (List.ne_nil_of_mem inside)
    refine importable_append.mpr ⟨importable_append.mpr packages, ?_⟩
    exact importable_moduleName (valid e (Metadata.mem_elementsOf inside))

/-- The name of a unit with elements is that of a repository, or of the whole graph. -/
theorem legal_of_elementsOf [SetOrder] (built : Plan.build type names = .ok plan)
    (rebuilt : Graph.Rebuilt d s g) (member : u ∈ plan.units)
    (some_element : g.elementsOf u.repository ≠ []) :
    isRepositoryName u.name = true := by
  rw [Plan.units_of_build built] at member
  cases type with
  | monolithic =>
    rw [List.mem_singleton.mp member]
    decide
  | modular =>
    obtain ⟨name, -, rfl⟩ := List.mem_map.mp member
    obtain ⟨e, inside⟩ := List.exists_mem_of_ne_nil _ some_element
    have same : e.repository = name := beq_iff_eq.mp (List.mem_filter.mp inside).2
    have declared := rebuilt.elements.mem_iff.mp (Metadata.mem_elementsOf inside)
    obtain ⟨r, own, known⟩ :=
      RepositorySet.mem_names.mp (RepositorySet.repository_mem_names declared)
    change isRepositoryName name = true
    rw [← same, ← known]
    exact r.legal

/-- What keeps the package above the groups from being imported is the external package, where a
unit has elements of the external interface. -/
theorem importable_rootOf {settings : Settings}
    (accepted : settings.checkExternal = .valid settings) (g : Graph) (u : OutputUnit) :
    Importable (rootOf g settings.external u) ↔
      ∀ package, settings.external = some package →
        (∃ e ∈ g.elementsOf u.repository, e.isExternalizable = true) →
          (∀ part ∈ nameParts package, Identifier.isReserved part = false) ∧
            package.toList.getLast? ≠ some '\n' := by
  cases given : settings.external with
  | none =>
    refine iff_of_true importable_generatedPackage fun package same => ?_
    cases same
  | some package =>
    have proper := external_eq_some accepted given
    by_cases marked : ∃ e ∈ g.elementsOf u.repository, e.isExternalizable = true
    · have root : rootOf g (some package) u = package := by
        unfold rootOf
        dsimp only
        rw [List.any_eq_true.mpr marked, isEmpty_of_isExternalPackage proper]
        rfl
      rw [root, importable_external proper]
      constructor
      · intro clean other same _
        cases same
        exact clean
      · intro clean
        exact clean package rfl marked
    · have root : rootOf g (some package) u = generatedPackage := by
        unfold rootOf
        dsimp only
        rw [Bool.eq_false_iff.mpr fun any => marked (List.any_eq_true.mp any)]
        rfl
      rw [root]
      exact iff_of_true importable_generatedPackage fun _ _ other => absurd other marked

/-- For settings that are accepted, a graph rebuilt from the source files of repositories and any
plan: all compiled modules can be imported, the added packages too, exactly if no unit
with elements is named by a reserved word and the external package, if a unit has elements of the
external interface, has no reserved word among its parts and no line end behind it. -/
theorem importable_iff [SetOrder] [Compiler] {settings : Settings} {code : Generation}
    {modules : List CompiledModule} (accepted : settings.checkExternal = .valid settings)
    (rebuilt : Graph.Rebuilt d s g) (built : Plan.build type names = .ok plan)
    (generated : generate g plan settings.external = .ok code)
    (compiled : compile code = .ok modules) :
    (∀ m ∈ modules, Importable m.name) ↔
      (∀ u ∈ plan.units, g.elementsOf u.repository ≠ [] →
        Identifier.isReserved u.name = false) ∧
      ∀ package, settings.external = some package →
        (∃ u ∈ plan.units, ∃ e ∈ g.elementsOf u.repository, e.isExternalizable = true) →
          (∀ part ∈ nameParts package, Identifier.isReserved part = false) ∧
            package.toList.getLast? ≠ some '\n' := by
  have ready : code = ofPlan g plan settings.external := by
    unfold generate at generated
    rw [if_pos rebuilt.isReady] at generated
    exact (Except.ok.inj generated).symm
  rw [importable_of_compile compiled, ready, importable_jobs_iff built
    (fun e => Graph.placed_of_rebuilt rebuilt) (fun e => Graph.valid_package_of_rebuilt rebuilt)]
  have group (u : OutputUnit) (member : u ∈ plan.units)
      (some_element : g.elementsOf u.repository ≠ []) :
      Importable (groupPackage u.name) ↔ Identifier.isReserved u.name = false :=
    importable_groupPackage (legal_of_elementsOf built rebuilt member some_element)
  constructor
  · intro importable
    refine ⟨fun u member some_element =>
      (group u member some_element).mp (importable u member some_element).2, ?_⟩
    rintro package given ⟨u, member, e, inside, external⟩
    have root := (importable u member (List.ne_nil_of_mem inside)).1
    exact (importable_rootOf accepted g u).mp root package given ⟨e, inside, external⟩
  · rintro ⟨unreserved, clean⟩ u member some_element
    refine ⟨(importable_rootOf accepted g u).mpr ?_,
      (group u member some_element).mpr (unreserved u member some_element)⟩
    rintro package given ⟨e, inside, external⟩
    exact clean package given ⟨u, member, e, inside, external⟩

end

end Code

/-! ## A repository named by a reserved word -/

namespace Sample

attribute [local instance] SetOrder.asWritten

/-- The files of one repository. -/
def reservedDisk : Disk :=
  ⟨[], [(["class"], .directory),
    (["class", "definition.yaml"], .file (Utf8.encode "\x7b\"name\":\"class\"\x7d")),
    (["class", "a.pure.yaml"], .file (Utf8.encode
      ("\x7b\"package\":\"p\",\"elements\":[\x7b\"kind\":\"enumeration\"," ++
        "\"name\":\"A\",\"values\":[\"X\"]\x7d]\x7d")))]⟩

/-- The repository alone. -/
def reservedRepositories : RepositorySet where
  members := [⟨"class", [], .ofParts ["class"], by decide⟩]
  ascending := by decide
  closed := by decide

/-- The element that it declares. -/
def reservedElement : Element :=
  ⟨"p::A", "class", "/class/a.pure.yaml", [], .enumerationBody ["X"]⟩

/-- The graph of the repository. -/
def reservedGraph : Graph := ⟨reservedRepositories, .ready, [], [reservedElement], by decide⟩

/-- Settings that take the repository from the disk. -/
def reservedSettings : Settings where
  repositories := []
  excluded := []
  extra := ["class"]
  type := .modular
  skip := false
  addExternal := false
  externalPackage := ""
  metadata := true
  singleDirectory := false
  sources := false
  test := false
  preventCompilation := false
  classes := .ofParts ["classes"]
  target := .ofParts ["target"]
  cache := none

/-- Nothing else is around the disk. -/
def bare : Surroundings := ⟨.ofParts ["bundle"], [], []⟩

/-- The repository with a reserved word for a name is discovered. -/
theorem discover_reserved : Discovery.discover ⟨false, false⟩ bare reservedDisk
    reservedSettings.extra = .ok reservedRepositories := by
  have computed : (Discovery.discover ⟨false, false⟩ bare reservedDisk
      reservedSettings.extra).toOption.map RepositorySet.members =
        some reservedRepositories.members := by decide +kernel
  obtain ⟨all, found, same⟩ := Option.map_eq_some_iff.mp computed
  rw [Result.toOption_eq_some.mp found, RepositorySet.eq_of_members_eq same]

/-- The graph of the repository with the reserved name is what a rebuild gives. -/
theorem rebuilt_reserved : Graph.Rebuilt reservedDisk reservedRepositories reservedGraph := by
  obtain ⟨readable, declares⟩ := RepositorySet.declares_of_toOption (s := reservedRepositories)
    (d := reservedDisk) [reservedElement] (by decide +kernel)
  have ordered : reservedRepositories.dependencyOrder.toOption.isSome = true := by decide +kernel
  refine ⟨rfl, rfl, ⟨RepositorySet.exists_dependencyOrder_iff.mp (Result.exists_of_isSome ordered),
    readable, ?_, ?_⟩, List.Perm.of_eq declares.symm⟩
  · rw [declares]
    decide
  · rw [declares]
    intro e member
    rw [List.mem_singleton.mp member]
    exact ⟨fun _ none => (nomatch none), fun _ none => (nomatch none)⟩

end Sample

namespace Code

open Sample

attribute [local instance] SetOrder.asWritten Code.Compiler.ofFaults in
/-- A repository may be named by a reserved word, and then its modules compile but cannot all be
imported. -/
theorem importable_reserved_sample : ∃ code modules,
    Discovery.discover ⟨false, false⟩ bare reservedDisk reservedSettings.extra =
      .ok reservedRepositories ∧
    generate reservedGraph ⟨.modular, [Plan.unitOf "class"]⟩ reservedSettings.external = .ok code ∧
    compile code = .ok modules ∧ ¬∀ m ∈ modules, Importable m.name := by
  have computed : (compile (ofPlan reservedGraph ⟨.modular, [Plan.unitOf "class"]⟩
      reservedSettings.external)).toOption.isSome = true := by decide +kernel
  obtain ⟨modules, compiled⟩ := Result.exists_of_isSome computed
  refine ⟨_, modules, discover_reserved, rfl, compiled, fun importable => ?_⟩
  have accepted : reservedSettings.checkExternal = .valid reservedSettings := rfl
  have built : Plan.build .modular ["class"] = .ok ⟨.modular, [Plan.unitOf "class"]⟩ := rfl
  have names := (importable_iff accepted rebuilt_reserved built rfl compiled).mp importable
  have element : reservedGraph.elementsOf (some "class") ≠ [] := by decide
  exact absurd (names.1 _ List.mem_cons_self element) (by decide)

end Code

end ModelForge
