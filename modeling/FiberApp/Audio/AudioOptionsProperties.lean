import FiberApp.Foundation.Execution
import FiberApp.Audio.AudioOptions

/-! No name is refused. A name outside the table enters it as another name of the
debug option and is handled as that. -/

set_option autoImplicit false

namespace FiberApp.Audio

open Foundation

/-- What reaches `webrtc_voe_stream_set_config_cap`: one call, or the loop over a
property map. -/
inductive ConfigCommand
  | configCap (call : ConfigCall)
  | configOptions (options : List ConfigCall)

namespace ConfigCommand

def calls : ConfigCommand → List ConfigCall
  | .configCap call => [call]
  | .configOptions options => options

def apply (state : ConfigState) : ConfigCommand → PjStatus × ConfigState
  | .configCap call => setConfigCap state call
  | .configOptions options => setConfigOptions state options

end ConfigCommand

def isAudioOption (name : String) : Prop := name ∈ audioOptionsMap.map Prod.fst

instance (name : String) : Decidable (isAudioOption name) :=
  inferInstanceAs (Decidable (_ ∈ _))

namespace ConfigState

def initial (stream : VoeStream) : ConfigState := ⟨audioOptionsMap, stream⟩

def next (state : ConfigState) (call : ConfigCall) : ConfigState := (setConfigCap state call).2

def run (state : ConfigState) (commands : List ConfigCommand) : ConfigState :=
  commands.foldl (fun state command => (command.apply state).2) state

/-- An unknown name is refused and nothing changes. -/
def RefusesUnknown (state : ConfigState) (call : ConfigCall) : Prop :=
  ¬ isAudioOption call.cap → setConfigCap state call = (.eaudInvcap, state)

end ConfigState

theorem VoeStream.attempt_ne_invcap (replies : EngineReplies) (calls : List EngineCall)
    (stream : VoeStream) : (stream.attempt replies calls).1 ≠ .eaudInvcap := by
  induction calls generalizing stream with
  | nil => simp [VoeStream.attempt]
  | cons call rest ih =>
      simp only [VoeStream.attempt]
      split
      · simp
      · exact ih _

theorem handle_ne_invcap (option : AudioOption) (replies : EngineReplies) (stream : VoeStream)
    (value : Int32) : (handle option replies stream value).1 ≠ .eaudInvcap := by
  cases option
  case aec | ns | agc | agcConstGain | agcMaxGain | esmMode | esmLevel =>
    exact VoeStream.attempt_ne_invcap _ _ _
  all_goals exact PjStatus.noConfusion

theorem setConfigCap_ne_invcap (state : ConfigState) (call : ConfigCall) :
    (setConfigCap state call).1 ≠ .eaudInvcap :=
  handle_ne_invcap _ _ _ _

theorem lookup_eq_none_iff (map : OptionsMap) (name : String) :
    map.lookup name = none ↔ name ∉ map.map Prod.fst := by
  rw [List.lookup_eq_none_iff]
  constructor
  · intro differs member
    obtain ⟨entry, held, same⟩ := List.mem_map.mp member
    have differs := differs entry held
    simp [same] at differs
  · intro absent entry held
    simpa using fun same => absent (List.mem_map.mpr ⟨entry, held, same.symm⟩)

theorem OptionsMap.index_of_mem {map : OptionsMap} {name : String}
    (member : name ∈ map.map Prod.fst) : (map.index name).2 = map := by
  rw [OptionsMap.index]
  split
  · rfl
  · rename_i missing
    exact absurd member ((lookup_eq_none_iff map name).mp missing)

namespace ConfigState

theorem refusesUnknown_iff (state : ConfigState) (call : ConfigCall) :
    RefusesUnknown state call ↔ isAudioOption call.cap := by
  constructor
  · intro refuses
    by_contra unknown
    have refused := congrArg Prod.fst (refuses unknown)
    exact setConfigCap_ne_invcap state call refused
  · intro known unknown
    exact absurd known unknown

theorem run_eq_foldl (state : ConfigState) (commands : List ConfigCommand) :
    state.run commands = (commands.flatMap ConfigCommand.calls).foldl next state := by
  induction commands generalizing state with
  | nil => rfl
  | cons command rest ih =>
      rw [List.flatMap_cons, List.foldl_append, ← ih]
      cases command with
      | configCap call => rfl
      | configOptions options => rfl

theorem map_foldl_next {state : ConfigState} (initial : state.map = audioOptionsMap)
    {calls : List ConfigCall} (known : ∀ call ∈ calls, isAudioOption call.cap) :
    (calls.foldl next state).map = audioOptionsMap := by
  induction calls generalizing state with
  | nil => exact initial
  | cons call rest ih =>
      obtain ⟨first, others⟩ := List.forall_mem_cons.mp known
      refine ih ?_ others
      have member : call.cap ∈ state.map.map Prod.fst := initial ▸ first
      exact (OptionsMap.index_of_mem member).trans initial

theorem guarded_refusesUnknown_iff {state : ConfigState} {calls : List ConfigCall} :
    Guarded (total next) RefusesUnknown state calls ↔
      ∀ call ∈ calls, isAudioOption call.cap := by
  induction calls generalizing state with
  | nil => simp [Guarded]
  | cons call rest ih =>
      rw [guarded_cons_of_some rfl, ih, refusesUnknown_iff, List.forall_mem_cons]

/-- Every unknown name is refused and the table stays as it was, exactly in the runs
that use none. -/
theorem unknown_refused_iff (stream : VoeStream) (commands : List ConfigCommand) :
    (Guarded (total next) RefusesUnknown (initial stream)
        (commands.flatMap ConfigCommand.calls) ∧
      ((initial stream).run commands).map = audioOptionsMap) ↔
    ∀ call ∈ commands.flatMap ConfigCommand.calls, isAudioOption call.cap := by
  constructor
  · rintro ⟨refuses, -⟩
    exact guarded_refusesUnknown_iff.mp refuses
  · intro known
    refine ⟨guarded_refusesUnknown_iff.mpr known, ?_⟩
    rw [run_eq_foldl]
    exact map_foldl_next rfl known

/-- The name `gain_boost` starts the debug recording and stays in the table. -/
theorem unknown_refused_gainBoost :
    ¬ ∀ (stream : VoeStream) (call : ConfigCall),
      RefusesUnknown (initial stream) call ∧
        ((initial stream).run [.configCap call]).map = audioOptionsMap := by
  intro law
  have refused := (law ⟨0, 3, 0, 1, true, []⟩ ⟨"gain_boost", 1, ⟨true, true, fun _ => false⟩⟩).1
  have same := congrArg Prod.fst (refused (by decide))
  exact absurd same (by decide)

end ConfigState

end FiberApp.Audio
