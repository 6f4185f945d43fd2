import ModelForge.Files.Action
import ModelForge.Proofs.Step

/-! # Replaced files are read back

Putting and erasing files leaves directories where they are, so every path still leads where it led
(`ModelForge.Disk.locate_of_keepsDirectories`). A file that was replaced is read back with its new
content (`ModelForge.Files.Action.read_of_replaceFile`).
-/

namespace ModelForge

namespace Disk

open Files

variable {d d' : Disk} {l m place : Location} {names : List String} {p : Path} {content : Octets}
  {entry : Entry}

theorem lookup_filter_ne (entries : List (Location × Entry)) (different : m ≠ l) :
    (entries.filter fun x => x.1 ≠ l).lookup m = entries.lookup m := by
  induction entries with
  | nil => rfl
  | cons first entries ih =>
    obtain ⟨n, e⟩ := first
    by_cases same : n = l
    · subst same
      rw [List.filter_cons_of_neg (by simp), ih, List.lookup_cons,
        beq_eq_false_iff_ne.mpr different]
    · rw [List.filter_cons_of_pos (by simpa using same), List.lookup_cons, List.lookup_cons, ih]

/-- Putting an entry changes no other place. -/
theorem entry?_put_of_ne (different : m ≠ l) (entry : Entry) :
    Disk.entry? (d.put l entry) m = d.entry? m := by
  unfold entry? put
  dsimp only
  rw [List.lookup_cons, beq_eq_false_iff_ne.mpr different, lookup_filter_ne _ different]

/-- Removing an entry changes no other place. -/
theorem entry?_erase_of_ne (different : m ≠ l) :
    Disk.entry? (d.erase l) m = d.entry? m := by
  unfold entry? erase
  dsimp only
  rw [lookup_filter_ne _ different]

/-- Nothing is left where an entry was removed. -/
theorem entry?_erase_self (below_root : l ≠ []) : Disk.entry? (d.erase l) l = none := by
  unfold entry? erase
  dsimp only
  rw [if_neg below_root, List.lookup_eq_none_iff]
  intro x member
  have different := (List.mem_filter.mp member).2
  simp only [ne_eq, decide_not, Bool.not_eq_eq_eq_not, Bool.not_true, decide_eq_false_iff_not]
    at different
  exact bne_iff_ne.mpr fun same => different same.symm

/-- An entry stands where it was put. -/
theorem entry?_put_self (below_root : l ≠ []) (entry : Entry) :
    Disk.entry? (d.put l entry) l = some entry := by
  unfold entry? put
  dsimp only
  rw [if_neg below_root, List.lookup_cons, beq_self_eq_true]

/-- Only below the root can something other than a directory stand. -/
theorem ne_nil_of_not_directory (other : d.entry? l ≠ some .directory) : l ≠ [] := by
  rintro rfl
  exact other rfl

/-- Every directory is still there, and relative paths start where they started. -/
structure KeepsDirectories (d d' : Disk) : Prop where
  here : d'.here = d.here
  directories : ∀ l, d.entry? l = some .directory → d'.entry? l = some .directory

theorem KeepsDirectories.trans {d'' : Disk} (first : KeepsDirectories d d')
    (second : KeepsDirectories d' d'') : KeepsDirectories d d'' :=
  ⟨second.here.trans first.here, fun l there => second.directories l (first.directories l there)⟩

/-- Putting a file where no directory is keeps the directories. -/
theorem keepsDirectories_put (other : d.entry? l ≠ some .directory) (entry : Entry) :
    KeepsDirectories d (d.put l entry) := by
  refine ⟨rfl, fun m there => ?_⟩
  have different : m ≠ l := by
    rintro rfl
    exact other there
  rw [entry?_put_of_ne different, there]

/-- Removing what is no directory keeps the directories. -/
theorem keepsDirectories_erase (other : d.entry? l ≠ some .directory) :
    KeepsDirectories d (d.erase l) := by
  refine ⟨rfl, fun m there => ?_⟩
  have different : m ≠ l := by
    rintro rfl
    exact other there
  rw [entry?_erase_of_ne different, there]

/-- Names lead where they led while all directories are kept. -/
theorem walk_of_keepsDirectories (keeps : KeepsDirectories d d')
    (led : d.walk place names = .ok l) : d'.walk place names = .ok l := by
  induction names generalizing place with
  | nil => exact led
  | cons name names ih =>
    rw [walk] at led ⊢
    cases standing : d.entry? place with
    | none =>
      rw [standing] at led
      cases led
    | some entry =>
      rw [standing] at led
      cases entry with
      | file content => cases led
      | directory =>
        rw [keeps.directories place standing]
        dsimp only at led ⊢
        split at led
        · cases led
        · next short =>
          rw [if_neg short]
          exact ih led

/-- A path that led somewhere leads there while directories are kept. -/
theorem locate_of_keepsDirectories (keeps : KeepsDirectories d d') (led : d.locate p = .ok l) :
    d'.locate p = .ok l := by
  unfold locate at led ⊢
  split at led
  · cases led
  · next short =>
    rw [if_neg short, keeps.here]
    exact walk_of_keepsDirectories keeps led

theorem locateFor_eq_ok : d.locateFor p = .ok l ↔ hasNull p = false ∧ d.locate p = .ok l := by
  unfold locateFor
  cases hasNull p with
  | true =>
    constructor
    · intro no
      cases no
    · rintro ⟨no, _⟩
      cases no
  | false =>
    cases d.locate p with
    | error r =>
      constructor
      · intro no
        cases no
      · rintro ⟨_, no⟩
        cases no
    | ok m =>
      constructor
      · intro same
        cases same
        exact ⟨rfl, rfl⟩
      · rintro ⟨_, same⟩
        cases same
        rfl

/-- Nothing is read at a path with a null character. -/
theorem read_of_hasNull (null : hasNull p = true) : d.read p = .error .nullCharacter := by
  unfold read locateFor
  rw [if_pos null]
  rfl

/-- Reading at any other path is not refused for a null character. -/
theorem read_ne_nullCharacter (proper : hasNull p = false) :
    d.read p ≠ .error .nullCharacter := by
  intro refused
  unfold read at refused
  cases led : d.locate p with
  | error reason =>
    have located : d.locateFor p = .error (.failed reason p.text none) := by
      unfold locateFor
      rw [proper, led]
      rfl
    rw [located] at refused
    cases refused
  | ok l =>
    rw [locateFor_eq_ok.mpr ⟨proper, led⟩] at refused
    dsimp only [bind, Except.bind] at refused
    split at refused <;> cases refused

/-- A file at the end of a path is read. -/
theorem read_of_file (free : hasNull p = false) (led : d.locate p = .ok l)
    (standing : d.entry? l = some (.file content)) : d.read p = .ok content := by
  unfold read
  rw [locateFor_eq_ok.mpr ⟨free, led⟩]
  dsimp only [bind, Except.bind]
  rw [standing]
  rfl

/-- Written content stands at the location of the path. -/
theorem write_eq_ok (written : d.write p content = .ok d') :
    ∃ l, d.locate p = .ok l ∧ d.entry? l ≠ some .directory ∧ d' = d.put l (.file content) := by
  obtain ⟨l, led, put⟩ := Result.bind_eq_ok.mp written
  obtain ⟨-, led⟩ := locateFor_eq_ok.mp led
  split at put
  · cases put
  · next other =>
    cases put
    exact ⟨l, led, fun there => other there, rfl⟩

/-- A moved entry stands at the location of the target and no longer at that of the source. -/
theorem move_eq_ok {source target : Path} (moved : d.move source target = .ok d') :
    hasNull target = false ∧ ∃ s t e, d.locate source = .ok s ∧ d.locate target = .ok t ∧
      d.entry? s = some e ∧ d.entry? t ≠ some .directory ∧ d' = (d.erase s).put t e := by
  unfold move at moved
  dsimp only at moved
  split at moved
  · cases moved
  · next free =>
    cases from_source : d.locate source with
    | error r =>
      rw [from_source] at moved
      cases moved
    | ok s =>
      rw [from_source] at moved
      cases to_target : d.locate target with
      | error r =>
        rw [to_target] at moved
        cases moved
      | ok t =>
        rw [to_target] at moved
        change (if _ then _ else _) = _ at moved
        split at moved
        · cases moved
        · split at moved
          · cases moved
          · next e standing =>
            split at moved
            · cases moved
            · next other =>
              cases moved
              exact ⟨by simpa using (not_or.mp free).2, s, t, e, rfl, rfl, standing, other, rfl⟩

/-- Content that was written to a file and moved over a target is read back at the target. -/
theorem read_of_write_move {source target : Path} {d₁ d₂ : Disk}
    (written : d.write source content = .ok d₁) (moved : d₁.move source target = .ok d₂) :
    d₂.read target = .ok content := by
  obtain ⟨l, led, other, rfl⟩ := write_eq_ok written
  obtain ⟨free, s, t, e, from_source, to_target, standing, other', rfl⟩ := move_eq_ok moved
  have same : s = l := by
    have still := locate_of_keepsDirectories (keepsDirectories_put other (.file content)) led
    rw [from_source] at still
    exact Except.ok.inj still
  subst same
  rw [entry?_put_self (ne_nil_of_not_directory other)] at standing
  cases standing
  have file : Disk.entry? (d.put s (.file content)) s ≠ some .directory := by
    rw [entry?_put_self (ne_nil_of_not_directory other)]
    exact fun no => by cases no
  have target_root : t ≠ [] := ne_nil_of_not_directory other'
  have erased : Disk.entry? ((d.put s (.file content)).erase s) t ≠ some .directory := by
    by_cases same : t = s
    · rw [same, entry?_erase_self (ne_nil_of_not_directory other)]
      exact fun no => by cases no
    · rwa [entry?_erase_of_ne same]
  refine read_of_file free (l := t) (locate_of_keepsDirectories ((keepsDirectories_erase file).trans
    (keepsDirectories_put erased _)) to_target) (entry?_put_self target_root _)

end Disk

namespace Files

namespace Action

variable {d d' : Disk} {target : Path} {content : Octets}

theorem run_ofOperation_eq_ok {operation : Disk → Except Fault Disk} :
    (ofOperation operation).run.run d = (.ok (), d') ↔ operation d = .ok d' := by
  unfold ofOperation
  rw [Step.run_bind_of_ok (Step.run_get d)]
  cases operation d with
  | ok d₁ =>
    constructor
    · intro same
      cases same
      rfl
    · intro same
      cases same
      rfl
  | error f =>
    constructor
    · intro no
      cases no
    · intro no
      cases no

/-- A file that was replaced is read back with its new content. -/
theorem read_of_replaceFile (replaced : (replaceFile target content).run.run d = (.ok (), d')) :
    d'.read target = .ok content := by
  unfold replaceFile at replaced
  obtain ⟨-, d₁, -, locateOn⟩ := Step.run_bind_eq_ok.mp replaced
  obtain ⟨l, d₂, -, besideOn⟩ := Step.run_bind_eq_ok.mp locateOn
  rw [Step.run_bind_of_ok (Step.run_get d₂)] at besideOn
  obtain ⟨-, d₃, -, putOn⟩ := Step.run_bind_eq_ok.mp besideOn
  rcases outcome : (do
    write ⟨.slash, l ++ [d₂.freshName l (besideName target.name)]⟩ content
    move ⟨.slash, l ++ [d₂.freshName l (besideName target.name)]⟩ target : Action Unit).run.run d₃
    with ⟨result, d₄⟩
  cases result with
  | error f =>
    rw [Step.run_tryCatch_of_error outcome] at putOn
    obtain ⟨-, d₅, -, no⟩ := Step.run_bind_eq_ok.mp putOn
    cases no
  | ok done =>
    rw [Step.run_tryCatch_of_ok outcome] at putOn
    cases putOn
    obtain ⟨⟨⟩, d₅, written, moved⟩ := Step.run_bind_eq_ok.mp outcome
    exact Disk.read_of_write_move (run_ofOperation_eq_ok.mp written)
      (run_ofOperation_eq_ok.mp moved)

end Action

end Files

end ModelForge
