import ModelForge.Code.Generation
import ModelForge.Proofs.Code.Listing
import ModelForge.Proofs.Metadata.RoundTrip
import ModelForge.Proofs.Text.Named

/-! # The modules of a unit

A unit has a module for each package that it has elements in, with the elements of that package in
their order (`ModelForge.Code.lookup_modulesOf`). Each element of the unit is listed in one module,
that of its package (`ModelForge.Code.listed_of_mem_modulesOf`).
-/

namespace ModelForge

namespace Graph

variable {d : Disk} {s : RepositorySet} {g : Graph} {e : Element}

/-- Elements of a rebuilt graph stand in packages. -/
theorem placed_of_rebuilt [SetOrder] (rebuilt : Rebuilt d s g) (member : e ∈ g.elements) :
    e.Placed := by
  obtain ⟨r, -, declared⟩ := RepositorySet.mem_declares.mp (rebuilt.elements.mem_iff.mp member)
  obtain ⟨package, source, declaration, valid, named, -, rfl⟩ :=
    Repository.exists_declaration declared
  exact Element.placed_ofDeclaration valid.formed named r.name source

/-- Elements of a rebuilt graph are in packages that a source file may name. -/
theorem valid_package_of_rebuilt [SetOrder] (rebuilt : Rebuilt d s g) (member : e ∈ g.elements) :
    Source.ValidPackage e.package := by
  obtain ⟨r, -, declared⟩ := RepositorySet.mem_declares.mp (rebuilt.elements.mem_iff.mp member)
  obtain ⟨package, source, declaration, valid, named, -, rfl⟩ :=
    Repository.exists_declaration declared
  rwa [Element.package_ofDeclaration valid.formed named]

end Graph

namespace Code

variable {u : OutputUnit} {es : List Element} {package : String} {m : String × String}

/-- The elements of a package, in their order. -/
def inPackage (es : List Element) (package : String) : List Element :=
  es.filter fun e => e.package == package

/-- The elements of a package are those that stand in it. -/
theorem mem_inPackage {e : Element} : e ∈ inPackage es package ↔ e ∈ es ∧ e.package = package := by
  unfold inPackage
  rw [List.mem_filter, beq_iff_eq]

/-- The packages of elements are those in which one of them stands. -/
theorem mem_packages : package ∈ packages es ↔ ∃ e ∈ es, e.package = package := by
  unfold packages
  rw [Names.mem_ofList, List.mem_map]

/-- Only other packages are empty. -/
theorem inPackage_eq_nil : inPackage es package = [] ↔ package ∉ packages es := by
  rw [mem_packages, List.eq_nil_iff_forall_not_mem]
  constructor
  · rintro none ⟨e, member, same⟩
    exact none e (mem_inPackage.mpr ⟨member, same⟩)
  · intro none e member
    exact none ⟨e, mem_inPackage.mp member⟩

/-- Packages have paths of the form of paths. -/
theorem formed_of_mem_packages (placed : ∀ e ∈ es, e.Placed) (member : package ∈ packages es) :
    isElementPath package = true := by
  obtain ⟨e, inside, rfl⟩ := mem_packages.mp member
  exact (placed e inside).package

/-- The module of a package. -/
def moduleOf (u : OutputUnit) (es : List Element) (package : String) : String × String :=
  (moduleName package, renderModule (origin u) (inPackage es package))

/-- The modules of a unit have different names. -/
theorem nodup_modules (u : OutputUnit) (placed : ∀ e ∈ es, e.Placed) :
    (((packages es).map (moduleOf u es)).map Prod.fst).Nodup := by
  rw [List.map_map]
  refine (Names.nodup_ofList _).map_on fun a member b member' same => ?_
  exact moduleName_injective (formed_of_mem_packages placed member)
    (formed_of_mem_packages placed member') same

/-- Different packages have different modules, so none gives way to another one. -/
theorem modulesOf_eq (u : OutputUnit) (placed : ∀ e ∈ es, e.Placed) :
    modulesOf u es = (packages es).map (moduleOf u es) :=
  Named.ofList_of_nodup (nodup_modules u placed)

/-- The modules of a unit are those of its packages. -/
theorem mem_modulesOf (placed : ∀ e ∈ es, e.Placed) :
    m ∈ modulesOf u es ↔ ∃ package ∈ packages es, moduleOf u es package = m := by
  rw [modulesOf_eq u placed, List.mem_map]

theorem nodup_modulesOf (u : OutputUnit) (placed : ∀ e ∈ es, e.Placed) :
    ((modulesOf u es).map Prod.fst).Nodup := by
  rw [modulesOf_eq u placed]
  exact nodup_modules u placed

/-- The module of a package holds its elements, if there are any. -/
theorem lookup_modulesOf (u : OutputUnit) (placed : ∀ e ∈ es, e.Placed)
    (formed : isElementPath package = true) :
    (modulesOf u es).lookup (moduleName package) =
      if inPackage es package = [] then none
      else some (renderModule (origin u) (inPackage es package)) := by
  rw [modulesOf_eq u placed]
  refine (Named.lookup_map_of_injective _ fun other member => ?_).trans ?_
  · exact moduleName_injective formed (formed_of_mem_packages placed member)
  · by_cases known : package ∈ packages es
    · rw [if_pos known, if_neg fun none => inPackage_eq_nil.mp none known]
    · rw [if_neg known, if_pos (inPackage_eq_nil.mpr known)]

/-! ## What the modules list -/

variable {e : Element}

/-- A module lists the elements of a package, in their order. -/
theorem listed_of_mem_modulesOf (placed : ∀ e ∈ es, e.Placed) (free : '\n' ∉ (origin u).toList)
    (member : m ∈ modulesOf u es) :
    ∃ package, isElementPath package = true ∧ m.1 = moduleName package ∧
      listed m.2 = (inPackage es package).map Element.path := by
  obtain ⟨package, known, rfl⟩ := (mem_modulesOf placed).mp member
  refine ⟨package, formed_of_mem_packages placed known, rfl, ?_⟩
  refine listed_renderModule free fun e inside => ?_
  exact (placed e (mem_inPackage.mp inside).1).isElementPath

end Code

end ModelForge
