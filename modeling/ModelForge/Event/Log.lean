import ModelForge.Failure
import ModelForge.Schema.Rule

/-!
# Events

What happens in a run is told by events: a severity, a message, possibly the step it belongs to,
how long something took, and the failure it reports. A log keeps the events of a run in order and a
clock that counts nanoseconds and never goes back.
-/

namespace ModelForge

/-- How serious an event is. -/
inductive Severity where
  | info
  | warning
  | error
  deriving DecidableEq, Repr

/-- The name of a severity. -/
def Severity.name : Severity → String
  | .info => "info"
  | .warning => "warning"
  | .error => "error"

/-- The severities by name. -/
def Severity.names : List (String × Severity) :=
  [.info, .warning, .error].map fun s => (s.name, s)

/-- Something that happened. -/
structure Event where
  severity : Severity
  message : String
  /-- The step the event belongs to. -/
  step : Option String
  /-- How many seconds something took. -/
  elapsed : Option Binary64
  failure : Option Failure

namespace Event

/-- Reads an event; a failure is attached apart. -/
def check : Value → Checked Event :=
  Schema.object "PipelineEvent" fun entries =>
    Schema.closed ["severity", "message", "step", "elapsed_seconds", "error"] entries
      (Event.mk
        <$> Schema.required entries "severity" (Schema.named Severity.names)
        <*> Schema.required entries "message" Schema.text
        <*> Schema.member entries "step" (Schema.optional Schema.text) (some none)
        <*> Schema.member entries "elapsed_seconds" (Schema.optional Schema.size) (some none)
        <*> Schema.member entries "error"
              (fun v => match v with
                | .null => .valid none
                | _ => .violation (.notInstance "BaseException"))
              (some none))

/-- An event as it is handed to a structured logger: the severity picks the method, and only an
error carries its failure. -/
structure Forwarded where
  method : String
  message : String
  step : Option String
  /-- Seconds to nine places. -/
  elapsed : Option Binary64
  failure : Option Failure

/-- What a structured logger receives. -/
def forward (e : Event) : Forwarded where
  method := e.severity.name
  message := e.message
  step := e.step
  elapsed := e.elapsed.map (Binary64.roundPlaces 9)
  failure := if e.severity = .error then e.failure else none

end Event

/-- The events of a run, oldest first, and the clock. -/
structure Log where
  events : List Event
  /-- The last reading of the clock in nanoseconds. -/
  now : Nat

namespace Log

/-- The log of a run that has not begun. -/
def empty : Log := ⟨[], 0⟩

/-- Adds an event. -/
def add (e : Event) : StateM Log Unit := modify fun l => { l with events := l.events ++ [e] }

/-- Reads the clock. -/
def clock : StateM Log Nat := do
  let l ← get
  set { l with now := l.now + 1 }
  return l.now + 1

/-- The nanoseconds since a reading. -/
def since (start : Nat) : StateM Log Nat := do return (← clock) - start

/-- The nanoseconds of a second. -/
def perSecond : Nat := 1000000000

/-- Nanoseconds as seconds. -/
def seconds (nanoseconds : Nat) : Binary64 := Binary64.ofRatio false nanoseconds perSecond

/-- A number with leading zeros. -/
def padded (width n : Nat) : String :=
  let digits := toString n
  String.ofList (List.replicate (width - digits.length) '0') ++ digits

/-- Nanoseconds as text: seconds with nine places. -/
def secondsText (nanoseconds : Nat) : String :=
  toString (nanoseconds / perSecond) ++ "." ++ padded 9 (nanoseconds % perSecond) ++ "s"

/-- Adds a message. -/
def info (message : String) (step : Option String) : StateM Log Unit :=
  add ⟨.info, message, step, none, none⟩

/-- Adds a warning. -/
def warning (message : String) (step : Option String) : StateM Log Unit :=
  add ⟨.warning, message, step, none, none⟩

/-- Adds an error. -/
def error (message : String) (failure : Option Failure) (step : Option String)
    (nanoseconds : Option Nat) : StateM Log Unit :=
  add ⟨.error, message, step, nanoseconds.map seconds, failure⟩

/-- Begins a step and gives the reading of the clock at its start. -/
def beginStep (step : String) : StateM Log Nat := do
  info ("Beginning " ++ step) (some step)
  clock

/-- Finishes a step and gives the nanoseconds it took. -/
def completeStep (step : String) (start : Nat) : StateM Log Nat := do
  let elapsed ← since start
  add ⟨.info, "Finished " ++ step ++ " (" ++ secondsText elapsed ++ ")", some step,
    some (seconds elapsed), none⟩
  return elapsed

end Log

end ModelForge
