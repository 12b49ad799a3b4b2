import FiberApp.Foundation.Execution
import FiberApp.Render.WindowRouting

/-! The handler keeps the windows apart as long as the remote stream is created while
content is off, and content only after a remote stream. -/

set_option autoImplicit false

namespace FiberApp.Render

open Foundation

namespace RendererService

variable {Service : Type}

/-- What the requests do to the streams they name, and that they leave the others
alone. An added stream is rendered in the window it was last updated to. -/
structure Lawful (ops : RendererService Service) : Prop where
  local_addLocal : ∀ window service,
    ops.localWindow (ops.addLocalRenderer window service) = window
  local_removeLocal : ∀ service, ops.localWindow (ops.removeLocalRenderer service) = none
  local_addRemote : ∀ medIdx service,
    ops.localWindow (ops.addRemoteRenderer medIdx service) = ops.localWindow service
  local_removeRemote : ∀ medIdx service,
    ops.localWindow (ops.removeRemoteRenderer medIdx service) = ops.localWindow service
  local_updateRemote : ∀ window medIdx service,
    ops.localWindow (ops.updateRemoteRenderer window medIdx service) = ops.localWindow service
  chosen_updateRemote : ∀ window medIdx service,
    ops.chosenWindow (ops.updateRemoteRenderer window medIdx service) medIdx = window
  remote_addRemote : ∀ medIdx service,
    ops.remoteWindow (ops.addRemoteRenderer medIdx service) medIdx =
      ops.chosenWindow service medIdx
  remote_removeRemote : ∀ medIdx service,
    ops.remoteWindow (ops.removeRemoteRenderer medIdx service) medIdx = none
  remote_addLocal : ∀ window service,
    ops.remoteWindow (ops.addLocalRenderer window service) = ops.remoteWindow service
  remote_removeLocal : ∀ service,
    ops.remoteWindow (ops.removeLocalRenderer service) = ops.remoteWindow service
  remote_addRemote_of_ne : ∀ {medIdx other : Nat}, other ≠ medIdx → ∀ service,
    ops.remoteWindow (ops.addRemoteRenderer medIdx service) other = ops.remoteWindow service other
  remote_removeRemote_of_ne : ∀ {medIdx other : Nat}, other ≠ medIdx → ∀ service,
    ops.remoteWindow (ops.removeRemoteRenderer medIdx service) other =
      ops.remoteWindow service other
  remote_updateRemote_of_ne : ∀ {medIdx other : Nat}, other ≠ medIdx → ∀ window service,
    ops.remoteWindow (ops.updateRemoteRenderer window medIdx service) other =
      ops.remoteWindow service other

/-- `postUpdateRemoteRenderer` followed by `postAddRemoteRenderer`. -/
theorem Lawful.remote_shown {ops : RendererService Service} (lawful : ops.Lawful)
    (window : Option Window) (medIdx : Nat) (service : Service) :
    ops.remoteWindow
      (ops.addRemoteRenderer medIdx (ops.updateRemoteRenderer window medIdx service)) medIdx =
        window := by
  rw [lawful.remote_addRemote, lawful.chosen_updateRemote]

theorem Lawful.remote_shown_of_ne {ops : RendererService Service} (lawful : ops.Lawful)
    (window : Option Window) {medIdx other : Nat} (different : other ≠ medIdx)
    (service : Service) :
    ops.remoteWindow
      (ops.addRemoteRenderer medIdx (ops.updateRemoteRenderer window medIdx service)) other =
        ops.remoteWindow service other := by
  rw [lawful.remote_addRemote_of_ne different, lawful.remote_updateRemote_of_ne different]

theorem Lawful.local_shown {ops : RendererService Service} (lawful : ops.Lawful)
    (window : Option Window) (medIdx : Nat) (service : Service) :
    ops.localWindow
      (ops.addRemoteRenderer medIdx (ops.updateRemoteRenderer window medIdx service)) =
        ops.localWindow service := by
  rw [lawful.local_addRemote, lawful.local_updateRemote]

end RendererService

theorem content_ne_remote : contentIndex ≠ remoteIndex := by decide

namespace CallApi

variable {Service : Type} (ops : RendererService Service)

def localWindow (api : CallApi Service) : Option Window := ops.localWindow api.service

def remoteWindow (api : CallApi Service) : Option Window :=
  ops.remoteWindow api.service remoteIndex

def contentWindow (api : CallApi Service) : Option Window :=
  ops.remoteWindow api.service contentIndex

/-- The streams that exist are where they belong, no two of them in one window. -/
structure Law (api : CallApi Service) : Prop where
  content : api.contentOn = true → api.contentWindow ops = some .main
  localHidden : api.contentOn = true → api.localWindow ops = none
  remotePip : api.contentOn = true → api.remoteOn = true → api.remoteWindow ops = some .pip
  localPip : api.contentOn = false → api.localWindow ops = some .pip
  remoteMain : api.contentOn = false → api.remoteOn = true → api.remoteWindow ops = some .main
  remoteContentApart : api.remoteOn = true → api.contentOn = true →
    api.remoteWindow ops ≠ api.contentWindow ops
  remoteLocalApart : api.remoteOn = true → api.remoteWindow ops ≠ api.localWindow ops
  contentLocalApart : api.contentOn = true → api.contentWindow ops ≠ api.localWindow ops

/-- The remote stream is created while content is off, content once the window of a
remote stream exists. -/
def InOrder (api : CallApi Service) : StreamMessage → Prop
  | .createRemoteStream medIdx =>
      (medIdx = remoteIndex → api.contentOn = false) ∧
        (medIdx = contentIndex → api.mWnd1 ≠ none)
  | .removeRemoteStream _ => True

instance (api : CallApi Service) (message : StreamMessage) : Decidable (api.InOrder message) :=
  match message with
  | .createRemoteStream _ => inferInstanceAs (Decidable (_ ∧ _))
  | .removeRemoteStream _ => inferInstanceAs (Decidable True)

/-- The windows a state assigns, with the renderer of the main window in place once a
stream needs it. -/
structure Routed (api : CallApi Service) : Prop where
  mWnd1 : api.mWnd1 = none ∨ api.mWnd1 = some .main
  needed : api.remoteOn = true ∨ api.contentOn = true → api.mWnd1 = some .main
  whileOn : api.contentOn = true → api.contentWindow ops = some .main ∧
    api.localWindow ops = none ∧ api.remoteWindow ops = some .pip
  whileOff : api.contentOn = false → api.localWindow ops = some .pip ∧
    (api.remoteOn = true → api.remoteWindow ops = some .main)

variable {ops}

theorem Routed.law {api : CallApi Service} (routed : Routed ops api) : Law ops api := by
  cases content : api.contentOn with
  | true =>
      obtain ⟨contentMain, noLocal, remotePip⟩ := routed.whileOn content
      constructor <;> simp [content, contentMain, noLocal, remotePip]
  | false =>
      obtain ⟨localPip, remoteMain⟩ := routed.whileOff content
      constructor
      case remoteLocalApart =>
        intro remote
        rw [localPip, remoteMain remote]
        simp
      all_goals simp_all

theorem routed_start (lawful : ops.Lawful) (service : Service) :
    Routed ops (start ops service) where
  mWnd1 := .inl rfl
  needed := by simp [start]
  whileOn := by simp [start]
  whileOff := by
    intro _
    exact ⟨lawful.local_addLocal _ _, by simp [start]⟩

theorem windows_contentStarted (lawful : ops.Lawful) (api : CallApi Service) :
    (api.contentStarted ops).contentWindow ops = api.mWnd1 ∧
      (api.contentStarted ops).localWindow ops = none ∧
      (api.contentStarted ops).remoteWindow ops = some .pip := by
  refine ⟨?_, ?_, lawful.remote_shown _ _ _⟩
  · exact (lawful.remote_shown_of_ne _ content_ne_remote _).trans
      ((congrFun (lawful.remote_removeLocal _) _).trans (lawful.remote_shown _ _ _))
  · exact (lawful.local_shown _ _ _).trans (lawful.local_removeLocal _)

theorem windows_contentStopped (lawful : ops.Lawful) (api : CallApi Service) :
    (api.contentStopped ops).localWindow ops = some .pip ∧
      (api.contentStopped ops).remoteWindow ops = api.mWnd1 := by
  refine ⟨?_, lawful.remote_shown _ _ _⟩
  exact (lawful.local_shown _ _ _).trans
    ((lawful.local_removeRemote _ _).trans (lawful.local_addLocal _ _))

theorem windows_showRemoteVideo (lawful : ops.Lawful) (api : CallApi Service) :
    (api.showRemoteVideo ops).remoteWindow ops = some .main ∧
      (api.showRemoteVideo ops).localWindow ops = api.localWindow ops :=
  ⟨lawful.remote_shown _ _ _, lawful.local_shown _ _ _⟩

theorem Routed.contentStarted (lawful : ops.Lawful) {api : CallApi Service}
    (routed : Routed ops api) (created : api.mWnd1 ≠ none) :
    Routed ops (api.contentStarted ops) := by
  obtain ⟨content, noLocal, remote⟩ := windows_contentStarted lawful api
  have main := routed.mWnd1.resolve_left created
  constructor
  · exact routed.mWnd1
  · exact fun _ => main
  · exact fun _ => ⟨content.trans main, noLocal, remote⟩
  · intro off
    cases off

theorem Routed.contentStopped (lawful : ops.Lawful) {api : CallApi Service}
    (routed : Routed ops api) : Routed ops (api.contentStopped ops) := by
  obtain ⟨localPip, remote⟩ := windows_contentStopped lawful api
  constructor
  · exact routed.mWnd1
  · rintro (on | on)
    · exact routed.needed (.inl on)
    · cases on
  · intro on
    cases on
  · exact fun _ => ⟨localPip, fun on => remote.trans (routed.needed (.inl on))⟩

theorem Routed.remoteCreated (lawful : ops.Lawful) {api : CallApi Service}
    (routed : Routed ops api) (off : api.contentOn = false) :
    Routed ops (api.onMessage ops (.createRemoteStream remoteIndex)) := by
  obtain ⟨remote, sameLocal⟩ := windows_showRemoteVideo lawful api
  constructor
  · exact .inr rfl
  · exact fun _ => rfl
  · intro on
    exact absurd (off.symm.trans on) (by decide)
  · exact fun _ => ⟨sameLocal.trans (routed.whileOff off).1, fun _ => remote⟩

theorem Routed.remoteRemoved {api : CallApi Service} (routed : Routed ops api) :
    Routed ops (api.onMessage ops (.removeRemoteStream remoteIndex)) := by
  constructor
  · exact routed.mWnd1
  · rintro (on | on)
    · cases on
    · exact routed.needed (.inr on)
  · exact routed.whileOn
  · intro off
    refine ⟨(routed.whileOff off).1, ?_⟩
    rintro ⟨⟩

theorem onMessage_other {api : CallApi Service} {message : StreamMessage} {medIdx : Nat}
    (names : message = .createRemoteStream medIdx ∨ message = .removeRemoteStream medIdx)
    (notContent : medIdx ≠ contentIndex) (notRemote : medIdx ≠ remoteIndex) :
    api.onMessage ops message = api := by
  rcases names with rfl | rfl
  · rw [onMessage, if_neg notContent, if_neg notRemote]
  · rw [onMessage, if_neg notContent, if_neg notRemote]

theorem Routed.onMessage (lawful : ops.Lawful) {api : CallApi Service}
    (routed : Routed ops api) {message : StreamMessage} (inOrder : api.InOrder message) :
    Routed ops (api.onMessage ops message) := by
  cases message with
  | createRemoteStream medIdx =>
      by_cases content : medIdx = contentIndex
      · subst content
        exact routed.contentStarted lawful (inOrder.2 rfl)
      · by_cases remote : medIdx = remoteIndex
        · subst remote
          exact routed.remoteCreated lawful (inOrder.1 rfl)
        · rwa [onMessage_other (.inl rfl) content remote]
  | removeRemoteStream medIdx =>
      by_cases content : medIdx = contentIndex
      · subst content
        exact routed.contentStopped lawful
      · by_cases remote : medIdx = remoteIndex
        · subst remote
          exact routed.remoteRemoved
        · rwa [onMessage_other (.inr rfl) content remote]

theorem not_law_of_not_inOrder (lawful : ops.Lawful) {api : CallApi Service}
    {message : StreamMessage} (outside : ¬ api.InOrder message) :
    ¬ Law ops (api.onMessage ops message) := by
  intro law
  cases message with
  | createRemoteStream medIdx =>
      rcases not_and_or.mp outside with late | early
      · obtain ⟨rfl, on⟩ := Classical.not_imp.mp late
        have on : api.contentOn = true := by simpa using on
        have remotePip := law.remotePip on rfl
        have remoteMain := (windows_showRemoteVideo lawful api).1
        exact absurd (remoteMain.symm.trans remotePip) (by decide)
      · obtain ⟨rfl, unset⟩ := Classical.not_imp.mp early
        have contentMain := law.content rfl
        have contentUnset := (windows_contentStarted lawful api).1
        rw [not_not.mp unset] at contentUnset
        exact absurd (contentUnset.symm.trans contentMain) (by decide)
  | removeRemoteStream medIdx => exact outside trivial

/-- The windows are as they should be throughout, exactly in the runs whose streams are
created in order. -/
theorem windows_routed_iff (ops : RendererService Service) (lawful : ops.Lawful)
    (service : Service) (messages : List StreamMessage) :
    Throughout (total (onMessage ops)) (Law ops) (start ops service) messages ↔
      Guarded (total (onMessage ops)) InOrder (start ops service) messages := by
  refine throughout_iff_guarded (Routed ops) (fun _ routed => routed.law) ?_ ?_
    (routed_start lawful service)
  · rintro api message next routed inOrder ⟨⟩
    exact routed.onMessage lawful inOrder
  · intro api message _ outside
    exact ⟨_, rfl, not_law_of_not_inOrder lawful outside⟩

end CallApi

/-- The windows of the streams kept in tables. -/
structure WindowTable where
  preview : Option Window
  chosen : Nat → Option Window
  remote : Nat → Option Window

namespace WindowTable

def service : RendererService WindowTable where
  addLocalRenderer window table := { table with preview := window }
  removeLocalRenderer table := { table with preview := none }
  addRemoteRenderer medIdx table :=
    { table with remote := Function.update table.remote medIdx (table.chosen medIdx) }
  removeRemoteRenderer medIdx table :=
    { table with remote := Function.update table.remote medIdx none }
  updateRemoteRenderer window medIdx table :=
    { table with chosen := Function.update table.chosen medIdx window }
  localWindow := preview
  chosenWindow := chosen
  remoteWindow := remote

theorem service_lawful : service.Lawful where
  local_addLocal _ _ := rfl
  local_removeLocal _ := rfl
  local_addRemote _ _ := rfl
  local_removeRemote _ _ := rfl
  local_updateRemote _ _ _ := rfl
  chosen_updateRemote _ _ _ := Function.update_self ..
  remote_addRemote _ _ := Function.update_self ..
  remote_removeRemote _ _ := Function.update_self ..
  remote_addLocal _ _ := rfl
  remote_removeLocal _ := rfl
  remote_addRemote_of_ne different _ := Function.update_of_ne different ..
  remote_removeRemote_of_ne different _ := Function.update_of_ne different ..
  remote_updateRemote_of_ne _ _ _ := rfl

def empty : WindowTable := ⟨none, fun _ => none, fun _ => none⟩

end WindowTable

namespace CallApi

/-- A participant joins, shares and stops sharing. -/
theorem windows_routed_share :
    Throughout (total (onMessage WindowTable.service)) (Law WindowTable.service)
        (start WindowTable.service .empty)
        [.createRemoteStream 1, .createRemoteStream 2, .removeRemoteStream 2] ↔
      Guarded (total (onMessage WindowTable.service)) InOrder
        (start WindowTable.service .empty)
        [.createRemoteStream 1, .createRemoteStream 2, .removeRemoteStream 2] :=
  windows_routed_iff _ WindowTable.service_lawful _ _

/-- The remote stream is created again while content is on. -/
theorem windows_routed_recreated :
    ¬ ∀ (ops : RendererService WindowTable), ops.Lawful → ∀ (service : WindowTable)
      (messages : List StreamMessage),
      Throughout (total (onMessage ops)) (Law ops) (start ops service) messages := by
  intro law
  have held := (law WindowTable.service WindowTable.service_lawful .empty
    [.createRemoteStream 1, .createRemoteStream 2, .createRemoteStream 1]).reached rfl
  exact held.remoteContentApart rfl rfl rfl

end CallApi

end FiberApp.Render
