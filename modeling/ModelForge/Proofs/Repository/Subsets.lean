import Mathlib.Order.Bounds.Basic
import ModelForge.Proofs.Repository.Reordered

/-! # Subsets of repositories

The subset of some names is found by a search that takes up one name after the other and puts what
it depends on, in any order, with the names it still has to look at. Every search ends
(`ModelForge.Search.wellFounded_step`), and whatever order it looked at the names in, it comes to
the same end (`ModelForge.Search.comesTo_iff`). So a subset is the least set that holds the given
names and is closed under dependencies, in sets with cycles as well
(`ModelForge.RepositorySet.subset_least`).
-/

namespace ModelForge

/-- A search for all that some names depend on: the names it has included, and those it still has
to look at, the next one last. -/
structure Search where
  included : List String
  pending : List String

namespace Search

variable {s : RepositorySet} {t u : Search} {given : List String} {name : String}
  {result : Except Failure RepositorySet}

/-- A turn of a search looks at the last pending name. A member that is new is included, and what it
depends on is pending from then on. -/
inductive SearchStep (s : RepositorySet) : Search → Search → Prop
  | again {included pending : List String} {name : String} (known : name ∈ included) :
    SearchStep s ⟨included, pending ++ [name]⟩ ⟨included, pending⟩
  | first {included pending dependencies : List String} {r : Repository} (member : r ∈ s.members)
    (new : r.name ∉ included) (order : dependencies.Perm r.dependencies) :
    SearchStep s ⟨included, pending ++ [r.name]⟩ ⟨r.name :: included, pending ++ dependencies⟩

/-- How a search ends: with the set of what it has included, put together in any order, or at a name
that no member has. -/
inductive SearchEnds (s : RepositorySet) : Search → Except Failure RepositorySet → Prop
  | whole {included : List String} {rs : List Repository}
    (order : rs.Perm (included.filterMap s.get?)) :
    SearchEnds s ⟨included, []⟩ ((RepositorySet.ofList? rs).mapError fun f => .definition f none)
  | stuck {included pending : List String} {name : String} (new : name ∉ included)
    (unknown : name ∉ s.names) :
    SearchEnds s ⟨included, pending ++ [name]⟩ (.error (.unknownName name))

/-- A search for what some names depend on comes to an end. -/
def SearchComesTo (s : RepositorySet) (given : List String)
    (result : Except Failure RepositorySet) : Prop :=
  ∃ t, Relation.ReflTransGen (SearchStep s) ⟨[], given⟩ t ∧ SearchEnds s t result

/-! ## Searches end -/

/-- A turn includes one more member, or it leaves fewer names to look at. -/
theorem measure_of_step (turn : SearchStep s t u) :
    Prod.Lex (· < ·) (· < ·) ((s.unvisited u.included).length, u.pending.length)
      ((s.unvisited t.included).length, t.pending.length) := by
  cases turn with
  | again known => exact .right _ (by simp)
  | first member new order =>
    exact .left _ _ (RepositorySet.length_unvisited_cons_lt new (List.mem_map_of_mem member))

/-- No search goes on forever. -/
theorem wellFounded_step (s : RepositorySet) : WellFounded fun u t => SearchStep s t u :=
  Subrelation.wf measure_of_step
    (InvImage.wf (fun t : Search => ((s.unvisited t.included).length, t.pending.length))
      (Prod.lex Nat.lt_wfRel Nat.lt_wfRel).wf)

/-- A search can take a turn or is at its end. -/
theorem step_or_ends (s : RepositorySet) (t : Search) :
    (∃ u, SearchStep s t u) ∨ ∃ result, SearchEnds s t result := by
  obtain ⟨included, pending⟩ := t
  rcases List.eq_nil_or_concat' pending with rfl | ⟨front, name, rfl⟩
  · exact .inr ⟨_, .whole (.refl _)⟩
  · by_cases known : name ∈ included
    · exact .inl ⟨_, .again known⟩
    · by_cases member : name ∈ s.names
      · obtain ⟨r, inside, rfl⟩ := RepositorySet.mem_names.mp member
        exact .inl ⟨_, .first inside known (.refl _)⟩
      · exact .inr ⟨_, .stuck known member⟩

/-- Every search comes to a result. -/
theorem exists_comesTo (s : RepositorySet) (given : List String) :
    ∃ result, SearchComesTo s given result := by
  have onward (t : Search) :
      ∃ u result, Relation.ReflTransGen (SearchStep s) t u ∧ SearchEnds s u result := by
    induction t using (wellFounded_step s).induction with
    | _ t ih =>
      rcases step_or_ends s t with ⟨u, turn⟩ | ⟨result, ends⟩
      · obtain ⟨v, result, path, ends⟩ := ih u turn
        exact ⟨v, result, .head turn path, ends⟩
      · exact ⟨t, result, .refl, ends⟩
  obtain ⟨t, result, path, ends⟩ := onward ⟨[], given⟩
  exact ⟨result, t, path, ends⟩

/-! ## What a search has found -/

/-- What a search for the dependencies of some names has included is what they lead to, and what is
missing can be reached from what is pending. Of the given names those at the front are pending, and
all names that it has put behind them belong to members. -/
structure SearchInvariant (s : RepositorySet) (given : List String) (t : Search) : Prop where
  nodup : t.included.Nodup
  known : ∀ n ∈ t.included, n ∈ s.names
  reached : ∀ n, n ∈ t.included ∨ n ∈ t.pending → ∃ start ∈ given, s.Reaches start n
  closed : ∀ n ∈ t.included, ∀ d, s.DependsOn n d → d ∈ t.included ∨ d ∈ t.pending
  started : ∀ n ∈ given, n ∈ t.included ∨ n ∈ t.pending
  behind : ∃ front back more, given = front ++ back ∧ t.pending = front ++ more ∧
    (∀ n ∈ back, n ∈ s.names) ∧ ∀ n ∈ more, n ∈ s.names

/-- The invariant holds before the first name is looked at. -/
theorem searchInvariant_start (s : RepositorySet) (given : List String) :
    SearchInvariant s given ⟨[], given⟩ where
  nodup := .nil
  known := fun _ none => (nomatch none)
  reached := fun n inside => ⟨n, inside.resolve_left List.not_mem_nil, .refl⟩
  closed := fun _ none => (nomatch none)
  started := fun _ member => .inr member
  behind := ⟨given, [], [], by simp, by simp, by simp, by simp⟩

/-- The last pending name of a member is taken from the names put behind the given ones, or from the
given ones, which then end with names of members. -/
theorem SearchInvariant.taken {included pending : List String}
    (found : SearchInvariant s given ⟨included, pending ++ [name]⟩) (known : name ∈ s.names)
    {dependencies : List String} (members : ∀ d ∈ dependencies, d ∈ s.names) :
    ∃ front back more, given = front ++ back ∧ pending ++ dependencies = front ++ more ∧
      (∀ n ∈ back, n ∈ s.names) ∧ ∀ n ∈ more, n ∈ s.names := by
  obtain ⟨front, back, more, split, rest, ofBack, ofMore⟩ := found.behind
  rcases List.eq_nil_or_concat' more with rfl | ⟨others, last, rfl⟩
  · rw [List.append_nil] at rest
    refine ⟨pending, name :: back, dependencies, ?_, rfl, ?_, members⟩
    · rw [split, ← rest, List.append_assoc, List.singleton_append]
    · exact List.forall_mem_cons.mpr ⟨known, ofBack⟩
  · rw [← List.append_assoc] at rest
    obtain ⟨before, -⟩ := List.append_inj' rest rfl
    refine ⟨front, back, others ++ dependencies, split, ?_, ofBack, ?_⟩
    · rw [before, List.append_assoc]
    · intro n member
      rcases List.mem_append.mp member with other | dependency
      · exact ofMore n (by simp [other])
      · exact members n dependency

/-- A turn keeps what a search has found. -/
theorem SearchInvariant.step (found : SearchInvariant s given t) (turn : SearchStep s t u) :
    SearchInvariant s given u := by
  cases turn with
  | @again included pending name seen =>
    have kept {n : String} (inside : n ∈ included ∨ n ∈ pending ++ [name]) :
        n ∈ included ∨ n ∈ pending := by
      rcases inside with inside | inside
      · exact .inl inside
      · rcases List.mem_append.mp inside with inside | last
        · exact .inr inside
        · exact .inl (List.mem_singleton.mp last ▸ seen)
    refine ⟨found.nodup, found.known, fun n inside => ?_, fun n member d step => ?_,
      fun n member => kept (found.started n member), ?_⟩
    · exact found.reached n (inside.imp_right (List.mem_append_left [name]))
    · exact kept (found.closed n member d step)
    · have none : ∀ d ∈ ([] : List String), d ∈ s.names := fun _ no => absurd no List.not_mem_nil
      simpa only [List.append_nil] using found.taken (found.known name seen) none
  | @first included pending dependencies r member new order =>
    have own {d : String} : d ∈ dependencies ↔ s.DependsOn r.name d := by
      rw [order.mem_iff]
      refine ⟨fun inside => ⟨r, member, rfl, inside⟩, ?_⟩
      rintro ⟨q, inside, same, dependency⟩
      rwa [RepositorySet.eq_of_name_eq inside member same] at dependency
    have kept {n : String} (inside : n ∈ included ∨ n ∈ pending ++ [r.name]) :
        n ∈ r.name :: included ∨ n ∈ pending ++ dependencies := by
      simp only [List.mem_append, List.mem_cons] at inside ⊢
      tauto
    have members : ∀ d ∈ dependencies, d ∈ s.names := fun d inside =>
      s.closed r member d (order.mem_iff.mp inside)
    refine ⟨List.nodup_cons.mpr ⟨new, found.nodup⟩, ?_, fun n inside => ?_,
      fun n inside d step => ?_,
      fun n inside => kept (found.started n inside), found.taken ?_ members⟩
    · exact List.forall_mem_cons.mpr ⟨List.mem_map_of_mem member, found.known⟩
    · by_cases dependency : n ∈ dependencies
      · obtain ⟨start, from_start, path⟩ := found.reached r.name (.inr (by simp))
        exact ⟨start, from_start, path.tail (own.mp dependency)⟩
      · refine found.reached n ?_
        simp only [List.mem_append, List.mem_cons] at inside ⊢
        tauto
    · rcases List.mem_cons.mp inside with rfl | inside
      · exact .inr (List.mem_append_right _ (own.mpr step))
      · exact kept (found.closed n inside d step)
    · exact List.mem_map_of_mem member

/-- The invariant of a search holds after any steps. -/
theorem searchInvariant_of_steps (path : Relation.ReflTransGen (SearchStep s) ⟨[], given⟩ t) :
    SearchInvariant s given t := by
  induction path with
  | refl => exact searchInvariant_start s given
  | tail _ turn ih => exact ih.step turn

/-! ## What a search comes to -/

/-- When nothing is pending, what is included is what the given names lead to. -/
theorem SearchInvariant.mem_included {included : List String}
    (found : SearchInvariant s given ⟨included, []⟩) (n : String) :
    n ∈ included ↔ ∃ start ∈ given, s.Reaches start n := by
  constructor
  · exact fun inside => found.reached n (.inl inside)
  · rintro ⟨start, member, path⟩
    induction path with
    | refl => exact (found.started start member).resolve_right List.not_mem_nil
    | tail _ step ih => exact (found.closed _ ih _ step).resolve_right List.not_mem_nil

/-- When nothing is pending, the included repositories are those of the subset. -/
theorem SearchInvariant.perm {included : List String}
    (found : SearchInvariant s given ⟨included, []⟩) :
    (included.filterMap s.get?).Perm (s.restrict given).members := by
  have named {n : String} {r : Repository} (get : s.get? n = some r) :
      r ∈ s.members ∧ r.name = n := Keyed.find?_eq_some get
  refine (List.perm_ext_iff_of_nodup (found.nodup.filterMap fun a b r ofA ofB => ?_) ?_).mpr
    fun r => ?_
  · exact (named (Option.mem_def.mp ofA)).2.symm.trans (named (Option.mem_def.mp ofB)).2
  · exact .of_map _ (Keyed.nodup_keys (s.restrict given).ascending)
  · rw [RepositorySet.mem_restrict, List.mem_filterMap, ← found.mem_included]
    constructor
    · rintro ⟨n, inside, get⟩
      obtain ⟨member, rfl⟩ := named get
      exact ⟨member, inside⟩
    · rintro ⟨member, inside⟩
      exact ⟨r.name, inside, Keyed.find?_of_mem s.ascending member⟩

/-- The members of a set make the set. -/
theorem ofList?_members (s : RepositorySet) : RepositorySet.ofList? s.members = .ok s := by
  obtain ⟨t, made⟩ := RepositorySet.exists_ofList?_iff.mpr
    ⟨Keyed.nodup_keys s.ascending, s.closed⟩
  have nodup (s : RepositorySet) : s.members.Nodup := .of_map _ (Keyed.nodup_keys s.ascending)
  have members : t.members.Perm s.members :=
    (List.perm_ext_iff_of_nodup (nodup t) (nodup s)).mpr fun _ => RepositorySet.mem_of_ofList? made
  rw [made, RepositorySet.eq_of_members_eq (Keyed.eq_of_perm t.ascending s.ascending members)]

/-- Wherever a search ends, it has found the subset. -/
theorem SearchInvariant.eq_subset (found : SearchInvariant s given t)
    (ends : SearchEnds s t result) : result = s.subset given := by
  cases ends with
  | @whole included rs order =>
    have made : RepositorySet.ofList? rs = .ok (s.restrict given) :=
      RepositorySet.ofList?_of_perm (order.trans found.perm).symm (ofList?_members _)
    have known : ∀ n ∈ given, n ∈ s.names := fun n member =>
      found.known n ((found.started n member).resolve_right List.not_mem_nil)
    rw [made, RepositorySet.subset_eq_ok.mpr ⟨known, rfl⟩]
    rfl
  | @stuck included pending name new unknown =>
    -- the name cannot be a dependency, so it is a given one, and those behind it were members
    obtain ⟨front, back, more, split, rest, ofBack, ofMore⟩ := found.behind
    rcases List.eq_nil_or_concat' more with rfl | ⟨others, last, rfl⟩
    · rw [List.append_nil] at rest
      have later : back.reverse.find? (fun n => !s.contains n) = none := by
        simpa [RepositorySet.contains] using ofBack
      have here : (!s.contains name) = true := by simpa [RepositorySet.contains] using unknown
      unfold RepositorySet.subset
      rw [split, ← rest, List.append_assoc, List.reverse_append, List.singleton_append,
        List.reverse_cons, List.append_assoc, List.find?_append, later]
      simp [here]
    · rw [← List.append_assoc] at rest
      obtain ⟨-, same⟩ := List.append_inj' rest rfl
      exact absurd (ofMore name (by simp [List.singleton_inj.mp same])) unknown

/-- Every search for what some names depend on comes to their subset. -/
theorem comesTo_iff : SearchComesTo s given result ↔ s.subset given = result := by
  have only {result : Except Failure RepositorySet} (comes : SearchComesTo s given result) :
      result = s.subset given := by
    obtain ⟨t, path, ends⟩ := comes
    exact (searchInvariant_of_steps path).eq_subset ends
  refine ⟨fun comes => (only comes).symm, ?_⟩
  rintro rfl
  obtain ⟨result, comes⟩ := exists_comesTo s given
  rwa [only comes] at comes

end Search

namespace RepositorySet

variable {s sub : RepositorySet} {given : List String} {name : String}

/-- A set of names that holds some names and everything that its members depend on. -/
def Closed (s : RepositorySet) (given : List String) (names : Set String) : Prop :=
  (∀ n ∈ given, n ∈ names) ∧ ∀ n ∈ names, ∀ d, s.DependsOn n d → d ∈ names

/-- What some names lead to is the least closed set that holds them. -/
theorem isLeast_reached (s : RepositorySet) (given : List String) :
    IsLeast { names | s.Closed given names } { n | ∃ start ∈ given, s.Reaches start n } := by
  refine ⟨⟨fun n member => ⟨n, member, .refl⟩, ?_⟩, fun names closed n => ?_⟩
  · rintro n ⟨start, member, path⟩ d step
    exact ⟨start, member, path.tail step⟩
  · rintro ⟨start, member, path⟩
    induction path with
    | refl => exact closed.1 start member
    | tail _ step ih => exact closed.2 _ ih _ step

/-- A subset is the least set of names closed under dependencies. -/
theorem isLeast_names (known : s.subset given = .ok sub) :
    IsLeast { names | s.Closed given names } { n | n ∈ sub.names } := by
  have same : { n | n ∈ sub.names } = { n | ∃ start ∈ given, s.Reaches start n } :=
    Set.ext fun n => (mem_names_subset known n).trans mem_closure
  rw [same]
  exact s.isLeast_reached given

/-- A subset of a set with an unknown name fails with one of the unknown names. -/
theorem subset_of_unknown (unknown : ¬ ∀ n ∈ given, n ∈ s.names) :
    ∃ n ∈ given, n ∉ s.names ∧ s.subset given = .error (.unknownName n) := by
  unfold subset
  cases missing : given.reverse.find? fun n => !s.contains n with
  | none =>
    refine absurd (fun n member => ?_) unknown
    have found := List.find?_eq_none.mp missing n (List.mem_reverse.mpr member)
    simpa [contains] using found
  | some n =>
    refine ⟨n, List.mem_reverse.mp (List.mem_of_find?_eq_some missing), ?_, rfl⟩
    simpa [contains] using List.find?_some missing

/-- The subset of some names is found by every search, in whatever order it looks at the names, and
no search goes on forever. It fails exactly if a name is unknown, and then with such a name; the
failures of making a set do not arise. Otherwise its names are the least set that holds the given
ones and is closed under dependencies, its members are members of the whole set, and it is its own
subset. A repository sees exactly what can be reached from it, itself included. -/
theorem subset_least (s : RepositorySet) (given : List String) :
    WellFounded (fun u t => Search.SearchStep s t u) ∧
    (∀ result, Search.SearchComesTo s given result ↔ s.subset given = result) ∧
    ((∃ n ∈ given, n ∉ s.names ∧ s.subset given = .error (.unknownName n)) ∨
      (∀ n ∈ given, n ∈ s.names) ∧ ∃ sub, s.subset given = .ok sub ∧
        IsLeast { names | s.Closed given names } { n | n ∈ sub.names } ∧
        (∀ r, r ∈ sub.members ↔ r ∈ s.members ∧ r.name ∈ sub.names) ∧
        sub.subset sub.names = .ok sub) ∧
    ∀ name, (name ∉ s.names ∧ s.visibleFrom name = .error (.unknownName name)) ∨
      name ∈ s.names ∧ ∃ visible, s.visibleFrom name = .ok visible ∧
        ∀ other, other ∈ visible ↔ s.Reaches name other := by
  refine ⟨Search.wellFounded_step s, fun _ => Search.comesTo_iff, ?_, fun name => ?_⟩
  · by_cases known : ∀ n ∈ given, n ∈ s.names
    · have made : s.subset given = .ok (s.restrict given) := subset_eq_ok.mpr ⟨known, rfl⟩
      refine .inr ⟨known, _, made, isLeast_names made, fun r => ?_, subset_names _⟩
      rw [mem_names_subset made, mem_closure]
      exact mem_restrict
    · exact .inl (subset_of_unknown known)
  · by_cases known : name ∈ s.names
    · exact .inr ⟨known, visibleFrom_of_mem known⟩
    · have unknown : ¬ ∀ n ∈ [name], n ∈ s.names := by simpa using known
      obtain ⟨n, only, -, failed⟩ := subset_of_unknown unknown
      refine .inl ⟨known, ?_⟩
      rw [List.mem_singleton.mp only] at failed
      rw [visibleFrom, failed]
      rfl

end RepositorySet

end ModelForge
