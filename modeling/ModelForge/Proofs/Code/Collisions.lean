import ModelForge.Proofs.Code.Importable
import ModelForge.Proofs.Text.Keyed

/-! # Compiled modules and their collisions

Code is compiled under the full names of its modules and the packages above them. If two modules
have one full name, compiling ends with a diagnostic for each that comes second
(`ModelForge.Code.clashes`). Otherwise every module is compiled, each package above one that is no
module itself is added, and nothing else, ascending by name
(`ModelForge.Code.compile_iff_distinct`). Both hold for any compiler, of code whose texts compile
and whose groups and modules have no null characters in their names, as no file can be named by one.
-/

namespace ModelForge

/-- A text without a null character. -/
def NullFree (text : String) : Prop := '\x00' ∉ text.toList

instance (text : String) : Decidable (NullFree text) :=
  inferInstanceAs (Decidable ('\x00' ∉ text.toList))

/-- A joined text has a null character exactly if a part has. -/
theorem nullFree_append {a b : String} : NullFree (a ++ b) ↔ NullFree a ∧ NullFree b := by
  unfold NullFree
  rw [String.toList_append, List.mem_append, not_or]

/-- A segment of a text holds no null character if the text holds none. -/
theorem NullFree.segment {text : String} (free : NullFree text) {sep : Char} {seg : List Char}
    (member : seg ∈ Segments.splitOn sep text.toList) : NullFree (String.ofList seg) := by
  unfold NullFree
  rw [String.toList_ofList]
  exact fun null => free (Segments.mem_of_mem_splitOn member null)

namespace Code

variable {a b name group : String} {js before compiled : List Job} {job : Job}
  {code : Generation} {p q : Path}

/-! ## Files with null characters -/

theorem nullFree_parts_append (left : ∀ part ∈ p.parts, NullFree part)
    (right : ∀ part ∈ q.parts, NullFree part) : ∀ part ∈ (p.append q).parts, NullFree part := by
  unfold Path.append
  split
  · exact right
  · exact fun part member => (List.mem_append.mp member).elim (left part) (right part)

theorem nullFree_parts_ofString (free : NullFree name) :
    ∀ part ∈ (Path.ofString name).parts, NullFree part := by
  intro part member
  obtain ⟨seg, inside, rfl⟩ := List.mem_map.mp (List.mem_filter.mp member).1
  exact free.segment inside

/-- The parts of a name have none if the name has none. -/
theorem nullFree_of_mem_nameParts (free : NullFree name) :
    ∀ part ∈ nameParts name, NullFree part := by
  intro part member
  obtain ⟨seg, inside, rfl⟩ := List.mem_map.mp member
  exact free.segment inside

theorem nullFree_parts_foldl {parts : List String} (free : ∀ part ∈ parts, NullFree part)
    (start : ∀ part ∈ p.parts, NullFree part) :
    ∀ part ∈ (parts.foldl Path.child p).parts, NullFree part := by
  induction parts generalizing p with
  | nil => exact start
  | cons first parts ih =>
    obtain ⟨head, tail⟩ := List.forall_mem_cons.mp free
    exact ih tail (nullFree_parts_append start (nullFree_parts_ofString head))

theorem nullFree_text (free : ∀ part ∈ p.parts, NullFree part) : NullFree p.text := by
  have joined : NullFree (Path.joined p.parts) := by
    unfold NullFree Path.joined
    rw [Segments.toList_intercalate]
    intro null
    rcases Segments.mem_joinWith null with slash | ⟨seg, inside, within⟩
    · exact absurd slash (by decide)
    · obtain ⟨part, member, rfl⟩ := List.mem_map.mp inside
      exact free part member within
  have root : NullFree p.root.text := by
    cases p.root <;> decide
  unfold Path.text
  split
  · decide
  · exact nullFree_append.mpr ⟨root, joined⟩

/-- The file of a module holds no null character if the names of its group and of the module hold
none. -/
theorem nullFree_jobFile (free : NullFree group) (free' : NullFree name) :
    NullFree (jobFile group name) := by
  have slash : NullFree "/" := by decide
  refine nullFree_append.mpr ⟨nullFree_append.mpr ⟨free, slash⟩, nullFree_text ?_⟩
  refine nullFree_parts_append (nullFree_parts_foldl (nullFree_of_mem_nameParts free') ?_) ?_
  · exact fun _ none => absurd none List.not_mem_nil
  · intro part member
    rw [List.mem_singleton.mp member]
    decide

theorem nullFree_groupPackage (free : NullFree group) : NullFree (groupPackage group) := fun null =>
  (mem_groupPackage null).elim (fun same => absurd same (by decide)) free

/-- A file can be named by any text without one. -/
theorem nameFile_of_nullFree {file : String} (free : NullFree file) : nameFile file = .ok () := by
  unfold nameFile
  exact if_neg fun null => free (List.contains_iff_mem.mp null)

/-! ## Names above a name -/

/-- A dotted name lies properly above another one, which goes on behind a point. -/
def Above (a name : String) : Prop := ∃ rest, name = a ++ "." ++ rest

/-- What is above something above a name is above the name. -/
theorem Above.trans (first : Above a b) (second : Above b name) : Above a name := by
  obtain ⟨rest, rfl⟩ := first
  obtain ⟨more, rfl⟩ := second
  exact ⟨rest ++ "." ++ more, by simp only [String.append_assoc]⟩

/-- The ancestors of a name are what is above it. -/
theorem mem_ancestors : a ∈ ancestors name ↔ Above a name := by
  unfold ancestors
  rw [List.mem_filterMap]
  constructor
  · rintro ⟨k, within, same⟩
    split at same
    · cases same
    · next positive =>
      cases same
      have short := List.mem_range.mp within
      have free : ∀ part ∈ nameParts name, '.' ∉ part.toList :=
        fun part => not_mem_of_mem_nameParts
      have front : (nameParts name).take k ≠ [] := by
        rw [ne_eq, List.take_eq_nil_iff, not_or]
        exact ⟨positive, nameParts_ne_nil name⟩
      have behind : (nameParts name).drop k ≠ [] := by
        rw [ne_eq, List.drop_eq_nil_iff]
        exact Nat.not_le_of_lt short
      refine ⟨String.intercalate "." ((nameParts name).drop k), nameParts_injective ?_⟩
      rw [nameParts_append,
        nameParts_intercalate front fun part member => free part (List.mem_of_mem_take member),
        nameParts_intercalate behind fun part member => free part (List.mem_of_mem_drop member),
        List.take_append_drop]
  · rintro ⟨rest, rfl⟩
    have some_part := List.length_pos_iff.mpr (nameParts_ne_nil a)
    have some_rest := List.length_pos_iff.mpr (nameParts_ne_nil rest)
    refine ⟨(nameParts a).length, List.mem_range.mpr ?_, ?_⟩
    · rw [nameParts_append, List.length_append]
      omega
    · rw [if_neg (Nat.ne_of_gt some_part), nameParts_append, List.take_left,
        intercalate_nameParts]

/-- A package is added if it is above a module and no module itself. -/
theorem mem_addedPackages_iff : name ∈ addedPackages (js.map Job.name) ↔
    name ∉ js.map Job.name ∧ ∃ job ∈ js, Above name job.name := by
  rw [mem_addedPackages]
  simp only [List.mem_map, exists_exists_and_eq_and, mem_ancestors]

/-! ## Modules of one name -/

/-- The first of some jobs that has the name of a given one. -/
def holder? (before : List Job) (job : Job) : Option Job :=
  before.find? fun other => other.name == job.name

/-- The diagnostic of the job at a place, if an earlier one has its name. -/
def clash? (js : List Job) (entry : Job × Nat) : Option Diagnostic :=
  (holder? (js.take entry.2) entry.1).map fun first => collision entry.1 first.group

/-- A diagnostic for each job whose name an earlier job has, in order. It states the group of the
first job of that name. -/
def clashes (js : List Job) : List Diagnostic := js.zipIdx.filterMap (clash? js)

/-- A name is held by the first job that has it. -/
theorem holder?_append_singleton (before : List Job) (job other : Job) :
    holder? (before ++ [job]) other =
      (holder? before other).or (if job.name = other.name then some job else none) := by
  unfold holder?
  rw [List.find?_append, List.find?_singleton]
  by_cases same : job.name = other.name <;> simp [same]

/-- A job whose name is taken changes nothing about which names are taken, and by which jobs. -/
theorem holder?_of_taken {first : Job} (taken : holder? before job = some first) (other : Job) :
    holder? (before ++ [job]) other = holder? before other := by
  rw [holder?_append_singleton]
  split
  · next same =>
    have found : holder? before other = some first := by
      unfold holder? at taken ⊢
      rw [← same]
      exact taken
    rw [found, Option.some_or]
  · exact Option.or_none

/-- The diagnostics for the jobs behind some others. -/
def clashesBehind (before js : List Job) : List Diagnostic :=
  (js.zipIdx before.length).filterMap (clash? (before ++ js))

/-- A job clashes with the one that holds its name, if there is one. -/
theorem clashesBehind_cons (before : List Job) (job : Job) (rest : List Job) :
    clashesBehind before (job :: rest) =
      ((holder? before job).map fun first => collision job first.group).toList ++
        clashesBehind (before ++ [job]) rest := by
  have here : clash? (before ++ job :: rest) (job, before.length) =
      (holder? before job).map fun first => collision job first.group := by
    unfold clash?
    rw [List.take_left]
  have whole : before ++ job :: rest = before ++ [job] ++ rest := by
    rw [List.append_assoc, List.singleton_append]
  unfold clashesBehind
  rw [List.zipIdx_cons, List.filterMap_cons, here, whole, List.length_append,
    List.length_singleton]
  cases holder? before job <;> rfl

/-- A job whose name is taken gives a diagnostic. -/
theorem compileJobs_of_taken [Compiler] {first : Job} {rest out : List Job} {ds : List Diagnostic}
    (taken : holder? compiled job = some first)
    (others : compileJobs compiled rest = .ok (out, ds)) :
    compileJobs compiled (job :: rest) = .ok (out, collision job first.group :: ds) := by
  unfold holder? at taken
  unfold compileJobs
  rw [taken, others]
  rfl

/-- Another job is compiled if its text is accepted. -/
theorem compileJobs_of_free [Compiler] {rest : List Job} (free : holder? compiled job = none)
    (named : NullFree job.file) (text : Compiler.check job.file job.text = .ok none) :
    compileJobs compiled (job :: rest) = compileJobs (compiled ++ [job]) rest := by
  unfold holder? at free
  rw [compileJobs, free, nameFile_of_nullFree named, text]
  rfl

/-- Jobs that can be compiled are compiled until their names clash. The compiled jobs hold the same
names as all jobs before, since a job that is not compiled has a name that is taken. -/
theorem compileJobs_of_each [Compiler] (named : ∀ job ∈ js, NullFree job.file)
    (texts : ∀ job ∈ js, Compiler.check job.file job.text = .ok none)
    (same : ∀ job, holder? compiled job = holder? before job) :
    ∃ out, compileJobs compiled js = .ok (out, clashesBehind before js) := by
  induction js generalizing before compiled with
  | nil => exact ⟨compiled, rfl⟩
  | cons job rest ih =>
    obtain ⟨named, nameds⟩ := List.forall_mem_cons.mp named
    obtain ⟨text, texts⟩ := List.forall_mem_cons.mp texts
    rw [clashesBehind_cons]
    cases taken : holder? before job with
    | some first =>
      obtain ⟨out, others⟩ := ih nameds texts fun other =>
        (same other).trans (holder?_of_taken taken other).symm
      exact ⟨out, compileJobs_of_taken ((same job).trans taken) others⟩
    | none =>
      have both : ∀ other, holder? (compiled ++ [job]) other = holder? (before ++ [job]) other :=
        fun other => by rw [holder?_append_singleton, holder?_append_singleton, same other]
      obtain ⟨out, others⟩ := ih nameds texts both
      exact ⟨out, (compileJobs_of_free ((same job).trans taken) named text).trans others⟩

/-- A job does not clash if no earlier one has its name. -/
theorem clash?_eq_none {entry : Job × Nat} :
    clash? js entry = none ↔ ∀ other ∈ js.take entry.2, other.name ≠ entry.1.name := by
  unfold clash? holder?
  rw [Option.map_eq_none_iff, List.find?_eq_none]
  simp only [beq_iff_eq, ne_eq]

/-- Names clash exactly if one of them is the name of two jobs. -/
theorem clashes_eq_nil : clashes js = [] ↔ (js.map Job.name).Nodup := by
  unfold clashes
  rw [List.filterMap_eq_nil_iff, List.Nodup, List.pairwise_map, List.pairwise_iff_getElem]
  simp only [clash?_eq_none]
  constructor
  · intro free i j _ within less
    refine free (js[j], j) (List.mem_zipIdx_iff_getElem?.mpr (List.getElem?_eq_getElem within)) _ ?_
    exact List.mem_take_iff_getElem.mpr ⟨i, by omega, rfl⟩
  · intro distinct entry placed other earlier
    obtain ⟨within, here⟩ := List.getElem?_eq_some_iff.mp (List.mem_zipIdx_iff_getElem?.mp placed)
    obtain ⟨i, less, rfl⟩ := List.mem_take_iff_getElem.mp earlier
    rw [← here]
    exact distinct i entry.2 _ within (by omega)

/-! ## Packages above modules -/

/-- A dotted name whose parts are not empty and hold no null characters. Every dotted identifier is
such a name. -/
def Dotted (name : String) : Prop := ∀ part ∈ nameParts name, part ≠ "" ∧ NullFree part

instance (name : String) : Decidable (Dotted name) :=
  inferInstanceAs (Decidable (∀ part ∈ nameParts name, part ≠ "" ∧ NullFree part))

theorem nullFree_of_dotted (dotted : Dotted name) : NullFree name := by
  intro null
  obtain ⟨seg, inside, within⟩ := Segments.exists_mem_splitOn null (by decide : '\x00' ≠ '.')
  have free := (dotted _ (List.mem_map_of_mem inside)).2
  unfold NullFree at free
  rw [String.toList_ofList] at free
  exact free within

variable [Compiler]

/-- Code whose texts compile, with a dotted external package or none, and without null characters in
the names of groups and modules. -/
structure Compilable (code : Generation) : Prop where
  external : ∀ package, code.externalPackage = some package → Dotted package
  groups : ∀ group ∈ code.groups, NullFree group.1
  modules : ∀ group ∈ code.groups, ∀ m ∈ group.2, NullFree m.1
  texts : ∀ group ∈ code.groups, ∀ m ∈ group.2,
    Compiler.check (jobFile group.1 m.1) m.2 = .ok none

/-- The package of a group has a dotted root. -/
theorem exists_groupRoot (clean : Compilable code) (group : String) :
    ∃ root, Dotted root ∧ groupRoot code group = root ++ "." ++ groupPackage group := by
  obtain ⟨root, origin, shape⟩ := groupRoot_cases code group
  refine ⟨root, ?_, shape⟩
  rcases origin with given | rfl
  · exact clean.external root given
  · decide

/-- The full name of a module starts with a part that is not empty. -/
theorem nameParts_of_mem_jobs (clean : Compilable code) (member : job ∈ jobs code) :
    NullFree job.name ∧ ∃ first rest, first ≠ "" ∧ nameParts job.name = first :: rest := by
  obtain ⟨group, known, m, own, rfl⟩ := mem_jobs.mp member
  obtain ⟨root, dotted, shape⟩ := exists_groupRoot clean group.1
  have point : NullFree "." := by decide
  dsimp only
  rw [shape]
  constructor
  · simp only [nullFree_append]
    exact ⟨⟨⟨⟨nullFree_of_dotted dotted, point⟩,
      nullFree_groupPackage (clean.groups group known)⟩, point⟩, clean.modules group known m own⟩
  · cases parts : nameParts root with
    | nil => exact absurd parts (nameParts_ne_nil root)
    | cons first rest =>
      have some_first := (dotted first (parts ▸ List.mem_cons_self)).1
      rw [nameParts_append, nameParts_append, parts]
      exact ⟨first, _, some_first, rfl⟩

/-- A package above a module has a name that can be compiled. -/
theorem ne_empty_of_above (clean : Compilable code) (member : job ∈ jobs code)
    (above : Above name job.name) : name ≠ "" ∧ NullFree name := by
  obtain ⟨free, first, others, some_first, parts⟩ := nameParts_of_mem_jobs clean member
  obtain ⟨rest, shape⟩ := above
  rw [shape] at free parts
  refine ⟨?_, (nullFree_append.mp (nullFree_append.mp free).1).1⟩
  rintro rfl
  rw [nameParts_append] at parts
  exact some_first (List.cons.inj parts).1.symm

/-- The compiled module of an added package. -/
def packageModule (name : String) : CompiledModule :=
  ⟨name, none, Compiler.bytecode (packageFile name) ""⟩

/-- An added package is compiled. -/
theorem compilePackage_eq (some_name : name ≠ "") (free : NullFree name) :
    compilePackage name = .ok (packageModule name) := by
  have file : NullFree (packageFile name) :=
    nullFree_append.mpr ⟨free, by decide⟩
  unfold compilePackage
  rw [nameFile_of_nullFree file]
  unfold CompiledModule.make
  rw [if_neg fun empty => some_name (String.isEmpty_iff.mp empty)]
  rfl

/-- The modules that jobs of distinct names are compiled to. -/
structure Compiled (js : List Job) (modules : List CompiledModule) : Prop where
  ascending : Keyed.Ascending CompiledModule.name modules
  members : ∀ m, m ∈ modules ↔ (∃ job ∈ js, job.compiled = m) ∨
    ∃ package, package ∉ js.map Job.name ∧ (∃ job ∈ js, Above package job.name) ∧
      packageModule package = m
  closed : ∀ m ∈ modules, ∀ package, Above package m.name → ∃ p ∈ modules, p.name = package

/-- Modules and added packages have different names. -/
theorem nodup_names (distinct : (js.map Job.name).Nodup) :
    ((js.map Job.compiled ++ (addedPackages (js.map Job.name)).map packageModule).map
      CompiledModule.name).Nodup := by
  have own : (js.map Job.compiled).map CompiledModule.name = js.map Job.name := List.map_map
  have added : ((addedPackages (js.map Job.name)).map packageModule).map CompiledModule.name =
      addedPackages (js.map Job.name) := List.map_map.trans (List.map_id _)
  rw [List.map_append, own, added, List.nodup_append]
  refine ⟨distinct, Names.nodup_ofList _, fun a known b package same => ?_⟩
  exact (mem_addedPackages_iff.mp package).1 (same ▸ known)

/-- The modules of jobs with the packages above them, ascending by name. -/
def sortedModules (js : List Job) : List CompiledModule :=
  (js.map Job.compiled ++ (addedPackages (js.map Job.name)).map packageModule).mergeSort
    fun a b => decide (a.name ≤ b.name)

/-- What is compiled: the jobs and the packages above them. -/
theorem mem_sortedModules {m : CompiledModule} :
    m ∈ sortedModules js ↔ (∃ job ∈ js, job.compiled = m) ∨
      ∃ package, package ∉ js.map Job.name ∧ (∃ job ∈ js, Above package job.name) ∧
        packageModule package = m := by
  unfold sortedModules
  rw [List.mem_mergeSort, List.mem_append, List.mem_map, List.mem_map]
  simp only [mem_addedPackages_iff, and_assoc]

/-- The sorted modules are what the jobs compile to. -/
theorem compiled_sortedModules (distinct : (js.map Job.name).Nodup) :
    Compiled js (sortedModules js) := by
  refine ⟨Keyed.ascending_mergeSort (nodup_names distinct), fun m => mem_sortedModules,
    fun m member package higher => ?_⟩
  -- a package above a module that was added lies above the job that it was added for
  have job_below : ∃ job ∈ js, Above package job.name := by
    rcases mem_sortedModules.mp member with ⟨job, known, rfl⟩ | ⟨_, -, ⟨job, known, next⟩, rfl⟩
    · exact ⟨job, known, higher⟩
    · exact ⟨job, known, higher.trans next⟩
  by_cases own : package ∈ js.map Job.name
  · obtain ⟨job, known, rfl⟩ := List.mem_map.mp own
    exact ⟨job.compiled, mem_sortedModules.mpr (.inl ⟨job, known, rfl⟩), rfl⟩
  · exact ⟨packageModule package, mem_sortedModules.mpr (.inr ⟨package, own, job_below, rfl⟩), rfl⟩

/-- Jobs of different names get their packages. -/
theorem withPackages_of_distinct (distinct : (js.map Job.name).Nodup)
    (above : ∀ job ∈ js, ∀ package, Above package job.name → package ≠ "" ∧ NullFree package) :
    ∃ modules, withPackages js = .ok modules ∧ Compiled js modules := by
  have packages : (addedPackages (js.map Job.name)).mapM compilePackage =
      .ok ((addedPackages (js.map Job.name)).map packageModule) := by
    refine Result.mapM_eq_ok.mpr (List.forall₂_map_right_iff.mpr (List.forall₂_same.mpr ?_))
    intro package added
    obtain ⟨-, job, member, higher⟩ := mem_addedPackages_iff.mp added
    obtain ⟨some_name, free⟩ := above job member package higher
    exact compilePackage_eq some_name free
  exact ⟨sortedModules js, Result.bind_eq_ok.mpr ⟨_, packages, rfl⟩,
    compiled_sortedModules distinct⟩

/-! ## Compiling -/

/-- Clean code is compiled until names clash, and the diagnostics are those of the clashes. -/
theorem compileJobs_of_compilable (clean : Compilable code) :
    ∃ out, compileJobs [] (jobs code) = .ok (out, clashes (jobs code)) := by
  refine compileJobs_of_each (fun job member => ?_) (fun job member => ?_) fun _ => rfl
  · obtain ⟨group, known, m, own, rfl⟩ := mem_jobs.mp member
    exact nullFree_jobFile (clean.groups group known) (clean.modules group known m own)
  · obtain ⟨group, known, m, own, rfl⟩ := mem_jobs.mp member
    exact clean.texts group known m own

/-- Compilable code with clashes is refused for them. -/
theorem compile_of_clashes (clean : Compilable code) (twice : ¬ ((jobs code).map Job.name).Nodup) :
    compile code = .error (.compilation (clashes (jobs code))) := by
  obtain ⟨out, done⟩ := compileJobs_of_compilable clean
  unfold compile
  rw [done]
  cases found : clashes (jobs code) with
  | nil => exact absurd (clashes_eq_nil.mp found) twice
  | cons first rest => rfl

/-- Compilable code of different names compiles. -/
theorem compile_of_distinct (clean : Compilable code)
    (distinct : ((jobs code).map Job.name).Nodup) :
    ∃ modules, compile code = .ok modules ∧ Compiled (jobs code) modules := by
  obtain ⟨out, done⟩ := compileJobs_of_compilable clean
  rw [clashes_eq_nil.mpr distinct] at done
  have whole : out = jobs code := compileJobs_eq done
  have compiled : compile code = withPackages (jobs code) := by
    unfold compile
    rw [done, whole]
    rfl
  rw [compiled]
  exact withPackages_of_distinct distinct fun job member _ higher =>
    ne_empty_of_above clean member higher

/-- Jobs that were all compiled have distinct names. -/
theorem nodup_of_compileJobs {out : List Job} (done : compileJobs compiled js = .ok (out, []))
    (distinct : (compiled.map Job.name).Nodup) : (out.map Job.name).Nodup := by
  induction js generalizing compiled with
  | nil =>
    cases done
    exact distinct
  | cons job rest ih =>
    unfold compileJobs at done
    split at done
    · obtain ⟨others, -, none_left⟩ := Result.bind_eq_ok.mp done
      cases none_left
    · next free =>
      obtain ⟨_, -, done⟩ := Result.bind_eq_ok.mp done
      obtain ⟨complaint, -, done⟩ := Result.bind_eq_ok.mp done
      split at done
      · obtain ⟨others, -, none_left⟩ := Result.bind_eq_ok.mp done
        cases none_left
      · refine ih done ?_
        rw [List.map_append, List.map_singleton, List.nodup_append]
        refine ⟨distinct, List.nodup_singleton _, ?_⟩
        intro name known last single same
        obtain ⟨other, member, rfl⟩ := List.mem_map.mp known
        rw [List.mem_singleton.mp single] at same
        exact List.find?_eq_none.mp free other member (beq_iff_eq.mpr same)

/-- A package compiles to one module at most. -/
theorem eq_of_compilePackage {m : CompiledModule} (done : compilePackage name = .ok m) :
    m = packageModule name := by
  have made := compilePackage_eq_ok done
  unfold CompiledModule.make at made
  split at made
  · cases made
  · cases made
    rfl

/-- Whatever code is compiled, its jobs have distinct names, and the modules are theirs. -/
theorem eq_sortedModules_of_compile {modules : List CompiledModule}
    (done : compile code = .ok modules) :
    ((jobs code).map Job.name).Nodup ∧ modules = sortedModules (jobs code) := by
  obtain ⟨⟨compiled, diagnostics⟩, each, done⟩ := Result.bind_eq_ok.mp done
  split at done
  · next same =>
    cases same
    have distinct := nodup_of_compileJobs each List.nodup_nil
    have whole : compiled = jobs code := compileJobs_eq each
    subst whole
    obtain ⟨packages, added, made⟩ := Result.bind_eq_ok.mp done
    cases made
    have listed : (addedPackages ((jobs code).map Job.name)).map packageModule = packages := by
      rw [← List.forall₂_eq_eq_eq, List.forall₂_map_left_iff]
      exact (Result.mapM_eq_ok.mp added).imp fun _ _ one => (eq_of_compilePackage one).symm
    rw [← listed]
    exact ⟨distinct, rfl⟩
  · cases done

/-- Whatever compiles gives a module for each job and each package above one. -/
theorem compiled_of_compile {modules : List CompiledModule} (done : compile code = .ok modules) :
    Compiled (jobs code) modules := by
  obtain ⟨distinct, rfl⟩ := eq_sortedModules_of_compile done
  exact compiled_sortedModules distinct

end Code

/-! ## Groups that meet -/

namespace Sample

/-- Two groups whose packages have one name. -/
def meeting : Generation :=
  ⟨.modular, [("a-b", [("m", "X = 1\n")]), ("a_b", [("m.n", "X = 1\n"), ("m", "X = 1\n")])], [],
    none⟩

/-- Two groups, one of them in an external package that is the package of the other one. -/
def nested : Generation :=
  ⟨.modular, [("x", [("m", "X = 1\n")]), ("y", [("m.n", "X = 1\n")])], ["y"],
    some "pure_generated.x"⟩

/-- A module with a null character in its name. -/
def nullNamed : Generation := ⟨.modular, [("g", [("a\x00b", "X = 1\n")])], [], none⟩

attribute [local instance] Code.Compiler.ofFaults

/-- Texts without the faults of generated modules compile. -/
theorem check_of_faultless {code : Generation}
    (faultless : ∀ group ∈ code.groups, ∀ m ∈ group.2, Code.Fault.find? m.2 = none) :
    ∀ group ∈ code.groups, ∀ m ∈ group.2,
      Code.Compiler.check (Code.jobFile group.1 m.1) m.2 = .ok none := by
  intro group known m own
  change Except.ok ((Code.Fault.find? m.2).map Code.Fault.complaint) = .ok none
  rw [faultless group known m own]
  rfl

/-- Two groups whose packages have one name. -/
theorem compilable_meeting : Code.Compilable meeting where
  external := fun _ given => nomatch given
  groups := by decide +kernel
  modules := by decide +kernel
  texts := check_of_faultless (by decide +kernel)

/-- Two groups of which one package stands inside the other. -/
theorem compilable_nested : Code.Compilable nested where
  external := by
    rintro package given
    cases given
    decide +kernel
  groups := by decide +kernel
  modules := by decide +kernel
  texts := check_of_faultless (by decide +kernel)

end Sample

namespace Code

attribute [local instance] Compiler.ofFaults

end Code

end ModelForge
