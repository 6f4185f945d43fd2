import ModelForge.Event.Log

/-! # Steps in a log

The events of a run tell which steps began, inside which others, and which have not finished. They
are read one after the other (`ModelForge.Trace.read`): a step that begins is opened inside those
that are open, a step that finishes must be the one opened last, and any other event opens and
closes nothing. Entries of a log turn what has been told so far into something else
(`ModelForge.Log.TurnsTrace`).
-/

namespace ModelForge

/-! ## What events tell -/

/-- The steps of a run as its events tell them. -/
structure Trace where
  /-- The steps that began, oldest first, each with the steps it is inside of. -/
  begun : List (List String × String)
  /-- The steps that have not finished, the innermost first. -/
  opened : List String
  /-- How many errors were told. -/
  errors : Nat
  deriving DecidableEq, Repr

namespace Trace

/-- Nothing has been told. -/
def empty : Trace := ⟨[], [], 0⟩

/-- A step begins. -/
def begins (t : Trace) (step : String) : Trace :=
  { t with begun := t.begun ++ [(t.opened, step)], opened := step :: t.opened }

/-- Some steps have begun and finished. -/
def after (t : Trace) (steps : List (List String × String)) : Trace :=
  { t with begun := t.begun ++ steps }

/-- Reads an event. A beginning must name its step, and an ending the step that was opened last. -/
def read (t : Trace) (e : Event) : Option Trace :=
  if e.message.startsWith "Beginning " then
    match e.step with
    | none => none
    | some step =>
      if e.severity = .info ∧ e.message = "Beginning " ++ step then some (t.begins step) else none
  else if e.message.startsWith "Finished " then
    match t.opened with
    | [] => none
    | step :: outer =>
      if e.severity = .info ∧ e.step = some step ∧
          e.message.startsWith ("Finished " ++ step ++ " (") then
        some { t with opened := outer }
      else none
  else if e.severity = .error then some { t with errors := t.errors + 1 }
  else some t

/-- What events tell, if each of them can be read. -/
def of (events : List Event) : Option Trace := events.foldlM read empty

/-- The trace of events with one more is what that one makes of their trace. -/
theorem of_concat {events : List Event} {e : Event} {t t' : Trace} (told : of events = some t)
    (reads : t.read e = some t') : of (events ++ [e]) = some t' := by
  unfold of at told ⊢
  rw [List.foldlM_append, told, Option.bind_eq_bind, Option.bind_some, List.foldlM_cons, reads]
  rfl

theorem after_nil (t : Trace) : t.after [] = t :=
  congrArg (Trace.mk · t.opened t.errors) (List.append_nil _)

/-- Steps that have passed one after the other have passed. -/
theorem after_after (t : Trace) (steps steps' : List (List String × String)) :
    (t.after steps).after steps' = t.after (steps ++ steps') :=
  congrArg (Trace.mk · t.opened t.errors) (List.append_assoc _ _ _)

end Trace

/-! ## Messages -/

namespace Message

variable {text lead message : String} {c c' : Char}

theorem startsWith_append (lead rest : String) : (lead ++ rest).startsWith lead = true := by
  rw [String.startsWith_string_iff, String.toList_append]
  exact List.prefix_append _ _

/-- A text begins with the letter its front begins with. -/
theorem head?_append (first : lead.toList.head? = some c) (rest : String) :
    (lead ++ rest).toList.head? = some c := by
  rw [String.toList_append, List.head?_append, first]
  rfl

/-- A text does not begin with one that has another first character. -/
theorem startsWith_eq_false (first : text.toList.head? = some c)
    (other : lead.toList.head? = some c') (ne : c' ≠ c) : text.startsWith lead = false := by
  rw [String.startsWith_string_eq_false_iff]
  rintro ⟨rest, same⟩
  rw [← same, List.head?_append, other] at first
  exact ne (Option.some.inj first)

/-- A message that tells neither a beginning nor an ending. -/
def TellsNoStep (message : String) : Prop :=
  message.startsWith "Beginning " = false ∧ message.startsWith "Finished " = false

/-- A text that begins with a space. -/
abbrev Indented (text : String) : Prop := text.toList.head? = some ' '

/-- A text behind an indented front is indented. -/
theorem Indented.append (indented : Indented lead) (rest : String) : Indented (lead ++ rest) :=
  head?_append indented rest

/-- Only the letters that begin telling a step matter. -/
theorem tellsNoStep_of_head? (first : message.toList.head? = some c) (begins : 'B' ≠ c)
    (finishes : 'F' ≠ c) : TellsNoStep message :=
  ⟨startsWith_eq_false first rfl begins, startsWith_eq_false first rfl finishes⟩

/-- An indented message tells no step. -/
theorem Indented.tellsNoStep (indented : Indented message) : TellsNoStep message :=
  tellsNoStep_of_head? indented (by decide) (by decide)

end Message

/-! ## What each entry tells -/

namespace Event

/-- The event of a step that has finished after some nanoseconds. -/
def finished (step : String) (nanoseconds : Nat) : Event :=
  ⟨.info, "Finished " ++ step ++ " (" ++ Log.secondsText nanoseconds ++ ")", some step,
    some (Log.seconds nanoseconds), none⟩

end Event

namespace Trace

open Message

variable {t : Trace} {step message : String} {outer : List String} {e : Event}

/-- A step that begins is opened. -/
theorem read_beginning (t : Trace) (step : String) :
    t.read ⟨.info, "Beginning " ++ step, some step, none, none⟩ = some (t.begins step) := by
  unfold read
  dsimp only
  rw [if_pos (startsWith_append _ _), if_pos ⟨rfl, rfl⟩]

/-- A step that finishes is closed if it is the last one opened. -/
theorem read_finished (top : t.opened = step :: outer) (nanoseconds : Nat) :
    t.read (.finished step nanoseconds) = some { t with opened := outer } := by
  unfold read Event.finished
  dsimp only
  have other : ("Finished " ++ step ++ " (" ++ Log.secondsText nanoseconds ++ ")").startsWith
      "Beginning " = false :=
    startsWith_eq_false (head?_append (head?_append (head?_append (head?_append rfl _) _) _) _)
      rfl (by decide : 'B' ≠ 'F')
  rw [other, if_neg Bool.false_ne_true, if_pos, top]
  · dsimp only
    rw [if_pos]
    refine ⟨rfl, rfl, ?_⟩
    rw [String.append_assoc]
    exact startsWith_append _ _
  · simp only [String.append_assoc]
    exact startsWith_append _ _

/-- Other events that are no errors leave the trace as it is. -/
theorem read_of_tellsNoStep (plain : TellsNoStep e.message) (harmless : e.severity ≠ .error) :
    t.read e = some t := by
  unfold read
  rw [plain.1, plain.2, if_neg Bool.false_ne_true, if_neg Bool.false_ne_true, if_neg harmless]

/-- An error is counted. -/
theorem read_error (plain : TellsNoStep e.message) (error : e.severity = .error) :
    t.read e = some { t with errors := t.errors + 1 } := by
  unfold read
  rw [plain.1, plain.2, if_neg Bool.false_ne_true, if_neg Bool.false_ne_true, if_pos error]

/-- A trace counts one error for each event of that kind. -/
theorem errors_of_read {t' : Trace} (reads : t.read e = some t') :
    t'.errors = t.errors + if e.severity = .error then 1 else 0 := by
  unfold read at reads
  split at reads
  · split at reads
    · cases reads
    · split at reads
      · next info =>
        cases reads
        rw [info.1]
        rfl
      · cases reads
  · split at reads
    · split at reads
      · cases reads
      · split at reads
        · next info =>
          cases reads
          rw [info.1]
          rfl
        · cases reads
    · split at reads
      · next error =>
        cases reads
        rw [if_pos error]
      · next harmless =>
        cases reads
        rw [if_neg harmless]
        rfl

/-- A trace counts one error for each event of that kind, over any list of events. -/
theorem errors_of_foldlM {events : List Event} {t₀ : Trace}
    (reads : events.foldlM read t₀ = some t) :
    t.errors = t₀.errors + events.countP (·.severity = .error) := by
  induction events generalizing t₀ with
  | nil =>
    cases reads
    rfl
  | cons e events ih =>
    obtain ⟨t₁, first, others⟩ := Option.bind_eq_some_iff.mp reads
    rw [ih others, errors_of_read first, List.countP_cons]
    simp only [decide_eq_true_eq]
    omega

/-- Events that tell no error are none. -/
theorem harmless_of_errors {events : List Event} (told : of events = some t)
    (none : t.errors = 0) : ∀ e ∈ events, e.severity ≠ .error := by
  have counted := errors_of_foldlM told
  rw [none, empty, Nat.zero_add] at counted
  intro e member error
  exact List.countP_eq_zero.mp counted.symm e member (decide_eq_true error)

end Trace

namespace Log

open Message (TellsNoStep)

variable {α β : Type} {before : List Event} {t t₁ t₂ : Trace} {entry : StateM Log α}
  {next : α → StateM Log β} {step message : String} {outer : List String} {l : Log}

/-- The events of a log after some earlier ones tell a trace. -/
def TellsTrace (before : List Event) (t : Trace) (l : Log) : Prop :=
  ∃ events, l.events = before ++ events ∧ Trace.of events = some t

theorem tellsTrace_empty (l : Log) : TellsTrace l.events .empty l :=
  ⟨[], (List.append_nil _).symm, rfl⟩

/-- A log that tells one trace tells another one after an entry. -/
def TurnsTrace (before : List Event) (t t' : Trace) (entry : StateM Log α) : Prop :=
  ∀ l, TellsTrace before t l → TellsTrace before t' (entry.run l).2

/-- Entries one after the other turn a trace as each of them does. -/
theorem TurnsTrace.bind (first : TurnsTrace before t t₁ entry)
    (rest : ∀ a, TurnsTrace before t₁ t₂ (next a)) :
    TurnsTrace before t t₂ (entry >>= next) :=
  fun l tells => rest (entry.run l).1 (entry.run l).2 (first l tells)

theorem turnsTrace_pure (a : α) : TurnsTrace before t t (pure a) := fun _ tells => tells

theorem turnsTrace_clock : TurnsTrace before t t clock := fun _ tells => tells

theorem turnsTrace_since (start : Nat) : TurnsTrace before t t (since start) :=
  turnsTrace_clock.bind fun _ => turnsTrace_pure _

/-- An event turns a trace into what it is read as. -/
theorem turnsTrace_add {e : Event} {t' : Trace} (reads : t.read e = some t') :
    TurnsTrace before t t' (add e) := by
  rintro l ⟨events, same, told⟩
  refine ⟨events ++ [e], ?_, Trace.of_concat told reads⟩
  change l.events ++ [e] = _
  rw [same, List.append_assoc]

/-- A message that tells no step leaves the trace alone. -/
theorem turnsTrace_info (plain : TellsNoStep message) (step : Option String) :
    TurnsTrace before t t (info message step) :=
  turnsTrace_add (Trace.read_of_tellsNoStep plain fun no => nomatch no)

/-- Beginning a step opens it. -/
theorem turnsTrace_beginStep (step : String) :
    TurnsTrace before t (t.begins step) (beginStep step) :=
  (turnsTrace_add (Trace.read_beginning t step)).bind fun _ => turnsTrace_clock

/-- Completing the last step opened closes it. -/
theorem turnsTrace_completeStep (top : t.opened = step :: outer) (start : Nat) :
    TurnsTrace before t { t with opened := outer } (completeStep step start) :=
  (turnsTrace_since start).bind fun elapsed =>
    (turnsTrace_add (Trace.read_finished top elapsed)).bind fun _ => turnsTrace_pure elapsed

/-- A warning leaves the trace alone. -/
theorem turnsTrace_warning (plain : TellsNoStep message) (step : Option String) :
    TurnsTrace before t t (warning message step) :=
  turnsTrace_add (Trace.read_of_tellsNoStep plain fun no => nomatch no)

/-- An error is counted. -/
theorem turnsTrace_error (plain : TellsNoStep message) (failure : Option Failure)
    (step : Option String) (nanoseconds : Option Nat) :
    TurnsTrace before t { t with errors := t.errors + 1 }
      (error message failure step nanoseconds) :=
  turnsTrace_add (Trace.read_error plain rfl)

/-- A step that finishes has passed. -/
theorem turnsTrace_finished (t : Trace) (step : String) (start : Nat) :
    TurnsTrace before (t.begins step) (t.after [(t.opened, step)]) (completeStep step start) :=
  turnsTrace_completeStep rfl start

/-- A step that finishes has passed, with the steps that passed inside it. -/
theorem turnsTrace_passed (t : Trace) (step : String) (inside : List (List String × String))
    (start : Nat) : TurnsTrace before ((t.begins step).after inside)
      (t.after ((t.opened, step) :: inside)) (completeStep step start) := by
  have ends : { (t.begins step).after inside with opened := t.opened } =
      t.after ((t.opened, step) :: inside) :=
    congrArg (Trace.mk · t.opened t.errors) (List.append_assoc _ _ _)
  rw [← ends]
  exact turnsTrace_completeStep rfl start

end Log

end ModelForge
