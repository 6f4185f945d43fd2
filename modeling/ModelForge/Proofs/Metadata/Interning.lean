import Mathlib.Data.List.Nodup
import ModelForge.Proofs.Metadata.Pools
import ModelForge.Proofs.Metadata.Reading

/-! # Ids that are given out

Texts are put into the two pools in any order, and ids are given out while the pools still grow.
Each pool lists its texts in the order of their first use (`ModelForge.StringPools.FirstUses`), and
every id that was given out stands for its text in whatever the pools have become
(`ModelForge.StringPools.Interned`). One call keeps both (`ModelForge.StringPools.Interned.give`),
so they hold after all calls, and different texts have different ids
(`ModelForge.StringPools.ids_of_calls`).
-/

namespace ModelForge

namespace StringPools

open Metadata (string_eq_ok classifier_eq_ok)

variable {text : String} {texts pool : List String} {pools earlier later : StringPools} {id : Int}

/-! ## The order of first use -/

/-- A pool lists the texts that were put into it, each once and in the order of first use. -/
structure FirstUses (texts pool : List String) : Prop where
  nodup : pool.Nodup
  mem_iff : ∀ text, text ∈ pool ↔ text ∈ texts
  ordered : pool.Pairwise fun a b => texts.idxOf a < texts.idxOf b

theorem FirstUses.nil : FirstUses [] [] := ⟨List.nodup_nil, fun _ => Iff.rfl, List.Pairwise.nil⟩

/-- A text that is put into a pool is used for the first time, or it is there already. -/
theorem FirstUses.intern (uses : FirstUses texts pool) (text : String) :
    FirstUses (texts ++ [text]) (intern text pool).2 := by
  have kept : pool.Pairwise fun a b => (texts ++ [text]).idxOf a < (texts ++ [text]).idxOf b :=
    uses.ordered.imp_of_mem fun {a b} first second below => by
      rwa [List.idxOf_append_of_mem ((uses.mem_iff a).mp first),
        List.idxOf_append_of_mem ((uses.mem_iff b).mp second)]
  unfold StringPools.intern
  split
  · next index found =>
    obtain ⟨bounded, same, -⟩ := List.idxOf?_eq_some_iff.mp found
    have used : text ∈ texts := (uses.mem_iff text).mp (same ▸ List.getElem_mem bounded)
    refine ⟨uses.nodup, fun other => ?_, kept⟩
    rw [uses.mem_iff, List.mem_append, List.mem_singleton]
    exact ⟨.inl, fun either => either.elim (fun known => known) fun is => is ▸ used⟩
  · next missing =>
    have new : text ∉ pool := List.idxOf?_eq_none_iff.mp missing
    have unused : text ∉ texts := fun used => new ((uses.mem_iff text).mpr used)
    refine ⟨?_, fun other => ?_, ?_⟩
    · exact List.nodup_append.mpr ⟨uses.nodup, List.nodup_singleton text,
        fun a inside b last same => new (List.mem_singleton.mp last ▸ same ▸ inside)⟩
    · rw [List.mem_append, List.mem_append, uses.mem_iff]
    · refine List.pairwise_append.mpr ⟨kept, List.pairwise_singleton _ _, fun a inside b last => ?_⟩
      have used := (uses.mem_iff a).mp inside
      rw [List.mem_singleton.mp last, List.idxOf_append_of_mem used,
        List.idxOf_append_of_notMem unused]
      exact Nat.lt_add_right _ (List.idxOf_lt_length_iff.mpr used)

/-! ## Calls -/

/-- A call for the id of a text in one of the pools. -/
inductive Call where
  | classifier (text : String)
  | general (text : String)
  deriving DecidableEq, Repr

namespace Call

/-- Gives the id of the text, which is added to its pool if it is not there. -/
def give : Call → StateM StringPools Int
  | classifier text => classifierId text
  | general text => stringId text

/-- The text of a call that is about the pool of classifiers. -/
def classifier? : Call → Option String
  | classifier text => some text
  | general _ => none

/-- The text of a call that is about the general pool. -/
def general? : Call → Option String
  | classifier _ => none
  | general text => some text

/-- An id stands in its pool for the text of the call. -/
def StandsFor (pools : StringPools) : Call → Int → Prop
  | classifier text, id => pools.classifier id = .ok text
  | general text, id => pools.string id = .ok text

/-- What an id stands for does not change while the pools grow. -/
theorem StandsFor.mono {c : Call} (stands : c.StandsFor earlier id)
    (grown : later.Extends earlier) :
    c.StandsFor later id := by
  cases c with
  | classifier text =>
    obtain ⟨i, same, found⟩ := classifier_eq_ok.mp stands
    exact classifier_eq_ok.mpr ⟨i, same, getElem?_of_prefix grown.classifiers found⟩
  | general text =>
    obtain ⟨i, same, found⟩ := string_eq_ok.mp stands
    exact string_eq_ok.mpr ⟨i, same, getElem?_of_prefix grown.strings found⟩

/-- The id that a call gives stands for its text. -/
theorem standsFor_give (c : Call) (pools : StringPools) :
    c.StandsFor (c.give.run pools).2 (c.give.run pools).1 := by
  cases c with
  | classifier text => exact classifier_classifierId (.refl _)
  | general text => exact string_stringId (.refl _)

/-- A call leaves the ids from before as they are. -/
theorem extends_give (c : Call) (pools : StringPools) : (c.give.run pools).2.Extends pools := by
  cases c with
  | classifier text => exact extends_classifierId text pools
  | general text => exact extends_stringId text pools

/-- An id stands for one text of one pool. -/
theorem StandsFor.call_eq {c c' : Call} (stands : c.StandsFor pools id)
    (stands' : c'.StandsFor pools id) : c = c' := by
  cases c with
  | classifier text =>
    cases c' with
    | classifier text' => exact congrArg classifier (Except.ok.inj (stands.symm.trans stands'))
    | general text' =>
      obtain ⟨i, negative, -⟩ := classifier_eq_ok.mp stands
      obtain ⟨j, positive, -⟩ := string_eq_ok.mp stands'
      omega
  | general text =>
    cases c' with
    | classifier text' =>
      obtain ⟨i, positive, -⟩ := string_eq_ok.mp stands
      obtain ⟨j, negative, -⟩ := classifier_eq_ok.mp stands'
      omega
    | general text' => exact congrArg general (Except.ok.inj (stands.symm.trans stands'))

end Call

/-- Gives the ids of several texts one after the other, each behind the call that it answers. -/
def answers (calls : List Call) : StateM StringPools (List (Call × Int)) :=
  calls.mapM fun c => do return (c, ← c.give)

/-- The calls on new pools with the ids that they were given. -/
def idLog (calls : List Call) : List (Call × Int) := ((answers calls).run .empty).1

/-- What new pools become by calls. -/
def poolsOf (calls : List Call) : StringPools := ((answers calls).run .empty).2

/-- The answers of calls one after the other. -/
theorem run_answers_cons (c : Call) (calls : List Call) (pools : StringPools) :
    (answers (c :: calls)).run pools =
      ((c, (c.give.run pools).1) :: ((answers calls).run (c.give.run pools).2).1,
        ((answers calls).run (c.give.run pools).2).2) := by
  unfold answers
  rw [List.mapM_cons]
  rfl

/-- There is one answer for each call. -/
theorem map_fst_answers (calls : List Call) (pools : StringPools) :
    ((answers calls).run pools).1.map Prod.fst = calls := by
  induction calls generalizing pools with
  | nil => rfl
  | cons c calls ih => rw [run_answers_cons, List.map_cons, ih]

/-! ## The invariant -/

/-- The pools after calls: they list the texts of the calls, and the ids that were given out stand
for these texts. -/
structure Interned (log : List (Call × Int)) (pools : StringPools) : Prop where
  classifiers : FirstUses ((log.map Prod.fst).filterMap Call.classifier?) pools.classifiers
  strings : FirstUses ((log.map Prod.fst).filterMap Call.general?) pools.strings
  stands : ∀ p ∈ log, p.1.StandsFor pools p.2

variable {log : List (Call × Int)}

theorem Interned.empty : Interned [] .empty := ⟨.nil, .nil, fun _ none => nomatch none⟩

/-- A call keeps what is known of the pools. -/
theorem Interned.give (interned : Interned log pools) (c : Call) :
    Interned (log ++ [(c, (c.give.run pools).1)]) (c.give.run pools).2 := by
  have stands :
      ∀ p ∈ log ++ [(c, (c.give.run pools).1)], p.1.StandsFor (c.give.run pools).2 p.2 := by
    intro p member
    rcases List.mem_append.mp member with before | last
    · exact (interned.stands p before).mono (c.extends_give pools)
    · rw [List.mem_singleton.mp last]
      exact c.standsFor_give pools
  refine ⟨?_, ?_, stands⟩
  all_goals rw [List.map_append, List.filterMap_append]
  · cases c with
    | classifier text => exact interned.classifiers.intern text
    | general text => exact (List.append_nil _).symm ▸ interned.classifiers
  · cases c with
    | classifier text => exact (List.append_nil _).symm ▸ interned.strings
    | general text => exact interned.strings.intern text

/-- What holds of interned texts holds after any calls. -/
theorem Interned.answers (interned : Interned log pools) (calls : List Call) :
    Interned (log ++ ((answers calls).run pools).1) ((answers calls).run pools).2 := by
  induction calls generalizing log pools with
  | nil => exact (List.append_nil log).symm ▸ interned
  | cons c calls ih =>
    have later := ih (interned.give c)
    rw [List.append_assoc] at later
    rw [run_answers_cons]
    exact later

/-! ## Ids and texts -/

/-- A text has one place in a pool. -/
theorem index_inj {pool : List String} (nodup : pool.Nodup) {i j : Nat}
    (first : pool[i]? = some text) (second : pool[j]? = some text) : i = j :=
  (List.getElem?_inj (List.getElem?_eq_some_iff.mp first).1 nodup).mp (first.trans second.symm)

/-- A text of a pool without repetitions has one id. -/
theorem Interned.id_eq (interned : Interned log pools) {c : Call} {a b : Int}
    (stands : c.StandsFor pools a) (stands' : c.StandsFor pools b) : a = b := by
  cases c with
  | classifier text =>
    obtain ⟨i, rfl, first⟩ := classifier_eq_ok.mp stands
    obtain ⟨j, rfl, second⟩ := classifier_eq_ok.mp stands'
    rw [index_inj interned.classifiers.nodup first second]
  | general text =>
    obtain ⟨i, rfl, first⟩ := string_eq_ok.mp stands
    obtain ⟨j, rfl, second⟩ := string_eq_ok.mp stands'
    rw [index_inj interned.strings.nodup first second]

/-- Ids that are not positive are refused by the general pool. -/
theorem string_of_nonpos (nonpos : id ≤ 0) : pools.string id = .error (.notGeneral id) := by
  unfold string StringId.toGeneralIndex
  rw [if_pos nonpos]
  rfl

/-- Ids that are not negative are refused by the pool of classifiers. -/
theorem classifier_of_nonneg (nonneg : 0 ≤ id) :
    pools.classifier id = .error (.notClassifier id) := by
  unfold classifier StringId.toClassifierIndex
  rw [if_pos nonneg]
  rfl

/-- An id is refused exactly if it stands for no text. -/
theorem exists_error_iff {result : Except IdFault String} :
    (∃ fault, result = .error fault) ↔ ¬ ∃ text, result = .ok text := by
  cases result with
  | error fault => exact ⟨fun _ ⟨_, no⟩ => (nomatch no), fun _ => ⟨fault, rfl⟩⟩
  | ok text => exact ⟨fun ⟨_, no⟩ => (nomatch no), fun none => absurd ⟨text, rfl⟩ none⟩

/-- The general pool refuses all but the ids of its texts. -/
theorem string_refused_iff : (∃ fault, pools.string id = .error fault) ↔
    id ≤ 0 ∨ (pools.strings.length : Int) < id := by
  rw [exists_error_iff]
  constructor
  · intro none
    by_contra inside
    have bounded : (id - 1).toNat < pools.strings.length := by omega
    exact none ⟨_, string_eq_ok.mpr ⟨_, by omega, List.getElem?_eq_getElem bounded⟩⟩
  · rintro outside ⟨text, known⟩
    obtain ⟨i, rfl, found⟩ := string_eq_ok.mp known
    have bounded := (List.getElem?_eq_some_iff.mp found).1
    omega

/-- The pool of classifiers refuses all but the ids of its texts. -/
theorem classifier_refused_iff : (∃ fault, pools.classifier id = .error fault) ↔
    0 ≤ id ∨ id < -(pools.classifiers.length : Int) := by
  rw [exists_error_iff]
  constructor
  · intro none
    by_contra inside
    have bounded : (-id - 1).toNat < pools.classifiers.length := by omega
    exact none ⟨_, classifier_eq_ok.mpr ⟨_, by omega, List.getElem?_eq_getElem bounded⟩⟩
  · rintro outside ⟨text, known⟩
    obtain ⟨i, rfl, found⟩ := classifier_eq_ok.mp known
    have bounded := (List.getElem?_eq_some_iff.mp found).1
    omega

/-- Whatever calls are made on new pools, two ids are the same exactly if the calls name one pool
and one text; ids of classifiers are negative and all others positive; the pools list their texts in
the order of first use; and in the end each id stands for its text in its own pool, while a pool
refuses the ids of the other one, zero, and whatever lies beyond its texts. -/
theorem ids_of_calls (calls : List Call) :
    (idLog calls).map Prod.fst = calls ∧
      (∀ p ∈ idLog calls, ∀ q ∈ idLog calls, p.2 = q.2 ↔ p.1 = q.1) ∧
      FirstUses (calls.filterMap Call.classifier?) (poolsOf calls).classifiers ∧
      FirstUses (calls.filterMap Call.general?) (poolsOf calls).strings ∧
      (∀ text id, (.classifier text, id) ∈ idLog calls → id < 0 ∧
        (poolsOf calls).classifier id = .ok text ∧
        (poolsOf calls).string id = .error (.notGeneral id)) ∧
      (∀ text id, (.general text, id) ∈ idLog calls → 0 < id ∧
        (poolsOf calls).string id = .ok text ∧
        (poolsOf calls).classifier id = .error (.notClassifier id)) ∧
      (∀ id, (∃ fault, (poolsOf calls).classifier id = .error fault) ↔
        0 ≤ id ∨ id < -((poolsOf calls).classifiers.length : Int)) ∧
      ∀ id, (∃ fault, (poolsOf calls).string id = .error fault) ↔
        id ≤ 0 ∨ ((poolsOf calls).strings.length : Int) < id := by
  have complete : (idLog calls).map Prod.fst = calls := map_fst_answers calls .empty
  have interned : Interned (idLog calls) (poolsOf calls) := Interned.empty.answers calls
  have classifiers := interned.classifiers
  have strings := interned.strings
  rw [complete] at classifiers strings
  refine ⟨complete, fun p first q second => ⟨fun same => ?_, fun same => ?_⟩, classifiers, strings,
    fun text id member => ?_, fun text id member => ?_, fun id => classifier_refused_iff,
    fun id => string_refused_iff⟩
  · exact (interned.stands p first).call_eq (same ▸ interned.stands q second)
  · exact interned.id_eq (interned.stands p first) (same ▸ interned.stands q second)
  · have stands : (poolsOf calls).classifier id = .ok text := interned.stands _ member
    obtain ⟨i, same, -⟩ := classifier_eq_ok.mp stands
    exact ⟨by omega, stands, string_of_nonpos (by omega)⟩
  · have stands : (poolsOf calls).string id = .ok text := interned.stands _ member
    obtain ⟨i, same, -⟩ := string_eq_ok.mp stands
    exact ⟨by omega, stands, classifier_of_nonneg (by omega)⟩

example : (idLog [.classifier "C", .general "a", .classifier "E", .general "C", .general "a",
    .classifier "C"]).map Prod.snd = [-1, 1, -2, 2, 1, -1] := by decide

end StringPools

end ModelForge
