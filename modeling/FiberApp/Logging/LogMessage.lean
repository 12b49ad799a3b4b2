import Mathlib.Algebra.Order.Ring.Int
import Mathlib.Data.List.Induction

/-! Where a logged message goes: the debug output and the streams of `LogMessage`, each with
the least severity it takes, and the test in the logging macros that comes before them. -/

set_option autoImplicit false

namespace FiberApp.Logging

variable {Stream : Type}

inductive LogOutput (Stream : Type)
  | debug
  | stream (stream : Stream)
  deriving DecidableEq, Repr

/-- The static members of `LogMessage` that decide where a message goes. -/
structure LogMessage (Stream : Type) where
  minSev : Int
  dbgSev : Int
  streams : List (Stream × Int)
  deriving DecidableEq, Repr

namespace LogMessage

def initial (logDefault : Int) : LogMessage Stream :=
  { minSev := logDefault, dbgSev := logDefault, streams := [] }

/-- `UpdateMinLogSeverity`: each turn of its loop starts again from `dbg_sev_`. -/
def updateMinLogSeverity (log : LogMessage Stream) : LogMessage Stream :=
  { log with minSev := log.streams.foldl (fun _ entry => min log.dbgSev entry.2) log.dbgSev }

def logToDebug (log : LogMessage Stream) (minSev : Int) : LogMessage Stream :=
  { log with dbgSev := minSev }.updateMinLogSeverity

def addLogToStream (log : LogMessage Stream) (stream : Stream) (minSev : Int) :
    LogMessage Stream :=
  { log with streams := log.streams ++ [(stream, minSev)] }.updateMinLogSeverity

def logToStream (log : LogMessage Stream) (stream : Option Stream) (minSev : Int) :
    LogMessage Stream :=
  let cleared := { log with streams := [] }
  match stream with
  | none => cleared
  | some stream => cleared.addLogToStream stream minSev

def removeLogToStream [DecidableEq Stream] (log : LogMessage Stream) (stream : Stream) :
    LogMessage Stream :=
  { log with streams := log.streams.eraseP fun entry => stream = entry.1 }.updateMinLogSeverity

def loggable (log : LogMessage Stream) (severity : Int) : Bool := log.minSev ≤ severity

/-- What the destructor of a message writes to. -/
def outputs (log : LogMessage Stream) (severity : Int) : List (LogOutput Stream) :=
  (if log.dbgSev ≤ severity then [.debug] else []) ++
    log.streams.filterMap fun entry =>
      if entry.2 ≤ severity then some (.stream entry.1) else none

/-- What the logging macros write to. -/
def logged (log : LogMessage Stream) (severity : Int) : List (LogOutput Stream) :=
  if log.loggable severity then log.outputs severity else []

inductive Call (Stream : Type)
  | logToDebug (minSev : Int)
  | addLogToStream (stream : Stream) (minSev : Int)
  | logToStream (stream : Option Stream) (minSev : Int)
  | removeLogToStream (stream : Stream)
  deriving DecidableEq, Repr

def call [DecidableEq Stream] (log : LogMessage Stream) : Call Stream → LogMessage Stream
  | .logToDebug minSev => log.logToDebug minSev
  | .addLogToStream stream minSev => log.addLogToStream stream minSev
  | .logToStream stream minSev => log.logToStream stream minSev
  | .removeLogToStream stream => log.removeLogToStream stream

/-- The level of the stream that was added last. -/
def lastSev (log : LogMessage Stream) : Int :=
  (log.streams.getLast?.map Prod.snd).getD log.dbgSev

/-- `min_sev_` follows the last stream, except that it is left alone when the streams are
cleared and none is installed. -/
structure Kept (log : LogMessage Stream) : Prop where
  debug : log.minSev ≤ log.dbgSev
  last : log.streams ≠ [] → log.minSev = min log.dbgSev log.lastSev

theorem updateMinLogSeverity_minSev (log : LogMessage Stream) :
    log.updateMinLogSeverity.minSev = min log.dbgSev log.lastSev := by
  rw [lastSev, updateMinLogSeverity]
  cases reversed : log.streams using List.reverseRecOn with
  | nil => simp
  | append_singleton earlier entry => simp

theorem updateMinLogSeverity_kept (log : LogMessage Stream) : Kept log.updateMinLogSeverity := by
  have level := log.updateMinLogSeverity_minSev
  exact ⟨level.trans_le (min_le_left _ _), fun _ => level⟩

theorem call_kept [DecidableEq Stream] {log : LogMessage Stream} (kept : Kept log)
    (made : Call Stream) : Kept (log.call made) := by
  cases made with
  | logToDebug | addLogToStream | removeLogToStream => exact updateMinLogSeverity_kept _
  | logToStream stream minSev =>
      cases stream with
      | none => exact ⟨kept.debug, fun some => absurd rfl some⟩
      | some stream => exact updateMinLogSeverity_kept _

theorem calls_kept [DecidableEq Stream] (logDefault : Int) (calls : List (Call Stream)) :
    Kept (calls.foldl call (initial logDefault)) := by
  refine List.foldlRecOn calls call (motive := Kept) ⟨le_rfl, fun some => absurd rfl some⟩ ?_
  exact fun log kept made _ => call_kept kept made

theorem outputs_eq_nil_iff (log : LogMessage Stream) (severity : Int) :
    log.outputs severity = [] ↔
      severity < log.dbgSev ∧ ∀ entry ∈ log.streams, severity < entry.2 := by
  simp [outputs, List.filterMap_eq_nil_iff]

/-- Whatever calls have set up the outputs, a message reaches all that want it exactly when
none does, or its severity reaches the level of the debug output or of the last stream. -/
theorem logged_eq_outputs_iff [DecidableEq Stream] (logDefault severity : Int)
    (calls : List (Call Stream)) :
    let log := calls.foldl call (initial logDefault)
    log.logged severity = log.outputs severity ↔
      log.outputs severity = [] ∨ min log.dbgSev log.lastSev ≤ severity := by
  intro log
  have kept : Kept log := calls_kept logDefault calls
  rw [logged, loggable]
  by_cases passes : log.minSev ≤ severity
  · rw [if_pos (decide_eq_true passes)]
    refine ⟨fun _ => ?_, fun _ => rfl⟩
    by_cases none : log.streams = []
    · by_cases debug : log.dbgSev ≤ severity
      · exact .inr ((min_le_left _ _).trans debug)
      · exact .inl ((log.outputs_eq_nil_iff severity).mpr ⟨not_le.mp debug, by simp [none]⟩)
    · exact .inr ((kept.last none).symm.trans_le passes)
  · rw [if_neg (by simpa using passes)]
    constructor
    · intro same
      exact .inl same.symm
    · rintro (nothing | reaches)
      · exact nothing.symm
      · refine absurd ?_ passes
        by_cases none : log.streams = []
        · rw [lastSev, none] at reaches
          exact kept.debug.trans (by simpa using reaches)
        · exact (kept.last none).trans_le reaches

end LogMessage

end FiberApp.Logging
