import FiberApp.Render.WinBjnRenderer
import FiberApp.Foundation.Execution

/-! Switching between the two renderers. Setting one pointer leaves the other in place, and
the operations then disagree on which of the two they use. -/

set_option autoImplicit false

namespace FiberApp.Render

open Foundation

namespace WinBjnRenderer

/-- The objects that the two pointers own. -/
def held (renderer : WinBjnRenderer) : List Nat :=
  (renderer.ptrD3DRenderer.map D3DPointer.id).toList ++
    (renderer.ptrGdiRenderer.map GdiPointer.id).toList

def Vacant (renderer : WinBjnRenderer) : Prop :=
  renderer.ptrD3DRenderer = none ∧ renderer.ptrGdiRenderer = none

/-- At most one pointer is set, and every other renderer allocated has been deleted. -/
structure Owned (renderer : WinBjnRenderer) : Prop where
  single : renderer.ptrD3DRenderer = none ∨ renderer.ptrGdiRenderer = none
  balanced : renderer.ledger.Balanced renderer.held
  delivered : ∀ id ∈ renderer.delivered, id < renderer.ledger.allocated

def Allowed (renderer : WinBjnRenderer) (kinds : List RendererKind) : Prop :=
  ∃ kind ∈ kinds, renderer.targetKind = some kind

/-- The requested kind, with the other one if D3D could not be initialized. -/
def kindsFor (d3d9Renderer initialized : Bool) : List RendererKind :=
  if d3d9Renderer then
    if initialized then [.d3d] else [.d3d, .gdi]
  else [.gdi]

/-- What a set-up leaves: at most one renderer, of one of the kinds if it returned true. -/
def Leaves (answer : Bool × WinBjnRenderer) (kinds : List RendererKind) : Prop :=
  answer.2.Owned ∧ (answer.1 = true → answer.2.Allowed kinds)

@[simp] theorem deleteD3D_ptrD3DRenderer (renderer : WinBjnRenderer) :
    renderer.deleteD3D.ptrD3DRenderer = none := by
  unfold deleteD3D
  split
  case h_1 empty => exact empty
  case h_2 => rfl

@[simp] theorem deleteD3D_ptrGdiRenderer (renderer : WinBjnRenderer) :
    renderer.deleteD3D.ptrGdiRenderer = renderer.ptrGdiRenderer := by
  unfold deleteD3D
  split <;> rfl

@[simp] theorem deleteGdi_ptrGdiRenderer (renderer : WinBjnRenderer) :
    renderer.deleteGdi.ptrGdiRenderer = none := by
  unfold deleteGdi
  split
  case h_1 empty => exact empty
  case h_2 => rfl

@[simp] theorem deleteGdi_ptrD3DRenderer (renderer : WinBjnRenderer) :
    renderer.deleteGdi.ptrD3DRenderer = renderer.ptrD3DRenderer := by
  unfold deleteGdi
  split <;> rfl

theorem deleteD3D_vacant {renderer : WinBjnRenderer} (empty : renderer.ptrGdiRenderer = none) :
    renderer.deleteD3D.Vacant :=
  ⟨deleteD3D_ptrD3DRenderer renderer, by rw [deleteD3D_ptrGdiRenderer, empty]⟩

theorem held_of_vacant {renderer : WinBjnRenderer} (vacant : renderer.Vacant) :
    renderer.held = [] := by
  rw [held, vacant.1, vacant.2]
  rfl

theorem mem_held_of_deliverTarget {renderer : WinBjnRenderer} {id : Nat}
    (target : renderer.deliverTarget = some id) : id ∈ renderer.held := by
  cases d3d : renderer.ptrD3DRenderer with
  | some pointer =>
      simp only [deliverTarget, d3d, Option.some.injEq] at target
      simp [held, d3d, target]
  | none =>
      cases gdi : renderer.ptrGdiRenderer with
      | some pointer =>
          simp only [deliverTarget, d3d, gdi, Option.some.injEq] at target
          simp [held, d3d, gdi, target]
      | none => simp [deliverTarget, d3d, gdi] at target

theorem reset_vacant (renderer : WinBjnRenderer) : renderer.reset.Vacant := by
  constructor
  · rw [reset, deleteGdi_ptrD3DRenderer, deleteD3D_ptrD3DRenderer]
  · exact deleteGdi_ptrGdiRenderer _

namespace Owned

variable {renderer : WinBjnRenderer}

theorem newD3D (owned : renderer.Owned) (vacant : renderer.Vacant) : renderer.newD3D.Owned where
  single := .inr vacant.2
  balanced := by
    have balanced := owned.balanced.allocate
    rw [held_of_vacant vacant] at balanced
    simpa [WinBjnRenderer.newD3D, held, vacant.2] using balanced
  delivered := by
    intro id mem
    exact (owned.delivered id mem).trans (Nat.lt_succ_self _)

theorem newGdi (owned : renderer.Owned) (vacant : renderer.Vacant) (wnd : Bool) :
    (renderer.newGdi wnd).Owned where
  single := .inl vacant.1
  balanced := by
    have balanced := owned.balanced.allocate
    rw [held_of_vacant vacant] at balanced
    simpa [WinBjnRenderer.newGdi, held, vacant.1] using balanced
  delivered := by
    intro id mem
    exact (owned.delivered id mem).trans (Nat.lt_succ_self _)

theorem deleteD3D (owned : renderer.Owned) : renderer.deleteD3D.Owned := by
  unfold WinBjnRenderer.deleteD3D
  split
  case h_1 => exact owned
  case h_2 d3d present =>
    refine ⟨.inl rfl, ?_, owned.delivered⟩
    have balanced := owned.balanced
    rw [held, present] at balanced
    exact balanced.delete

theorem deleteGdi (owned : renderer.Owned) : renderer.deleteGdi.Owned := by
  unfold WinBjnRenderer.deleteGdi
  split
  case h_1 => exact owned
  case h_2 gdi present =>
    refine ⟨.inr rfl, ?_, owned.delivered⟩
    have balanced := owned.balanced.of_perm List.perm_append_comm
    rw [present] at balanced
    show Ledger.Balanced _ (_ ++ [])
    rw [List.append_nil]
    exact balanced.delete

theorem reset (owned : renderer.Owned) : renderer.reset.Owned :=
  owned.deleteD3D.deleteGdi

theorem deletedOnce_reset (owned : renderer.Owned) : renderer.reset.ledger.DeletedOnce := by
  have balanced := owned.reset.balanced
  rw [held_of_vacant renderer.reset_vacant] at balanced
  exact balanced.deletedOnce

theorem setUpWinD3DLayer (owned : renderer.Owned) (vacant : renderer.Vacant)
    (hwin initialized : Bool) :
    Leaves (renderer.setUpWinD3DLayer hwin initialized) (kindsFor true initialized) := by
  cases hwin with
  | false =>
      simp only [Leaves, WinBjnRenderer.setUpWinD3DLayer, Bool.false_eq_true, if_false, vacant.1,
        false_imp_iff, and_true]
      exact owned
  | true =>
      have created := owned.newD3D vacant
      cases initialized with
      | true => exact ⟨created, fun _ => ⟨.d3d, by decide, rfl⟩⟩
      | false =>
          exact ⟨created.deleteD3D.newGdi ⟨deleteD3D_ptrD3DRenderer _, vacant.2⟩ true,
            fun _ => ⟨.gdi, by decide, rfl⟩⟩

end Owned

/-- The set-up does not ask for one kind while the other one is in use. Without a window it
gets no D3D renderer. -/
def KeepsKind (renderer : WinBjnRenderer) (wnd d3d9Renderer : Bool) : Prop :=
  if d3d9Renderer && !renderer.windowless then wnd = true → renderer.ptrGdiRenderer = none
  else renderer.ptrD3DRenderer = none

theorem Owned.preferring {renderer : WinBjnRenderer} (owned : renderer.Owned)
    (software enabled : Bool) :
    { renderer with softwareRenderer := software, d3dEnabled := enabled }.Owned :=
  ⟨owned.single, owned.balanced, owned.delivered⟩

theorem setUpLayer_gdi {renderer : WinBjnRenderer} (owned : renderer.Owned)
    {d3d9Renderer : Bool} (requested : (d3d9Renderer && !renderer.windowless) = false)
    (vacant : renderer.ptrD3DRenderer = none) (wnd initialized : Bool) :
    Leaves (renderer.setUpLayer wnd d3d9Renderer initialized) [.gdi] := by
  have preferring := owned.preferring (!d3d9Renderer) d3d9Renderer
  cases gdi : renderer.ptrGdiRenderer with
  | none =>
      simp only [setUpLayer, requested, gdi, Bool.false_eq_true, if_false]
      rw [← gdi]
      refine ⟨preferring.newGdi ⟨vacant, gdi⟩ wnd, fun _ =>
        ⟨.gdi, List.mem_singleton_self _, ?_⟩⟩
      simp only [targetKind, newGdi, vacant]
  | some pointer =>
      simp only [setUpLayer, requested, gdi, Bool.false_eq_true, if_false]
      rw [← gdi]
      refine ⟨preferring, fun _ => ⟨.gdi, List.mem_singleton_self _, ?_⟩⟩
      simp only [targetKind, vacant, gdi]

theorem setUpLayer_d3d {renderer : WinBjnRenderer} (owned : renderer.Owned)
    {d3d9Renderer : Bool} (requested : (d3d9Renderer && !renderer.windowless) = true)
    (vacant : renderer.ptrGdiRenderer = none) (wnd initialized : Bool) :
    Leaves (renderer.setUpLayer wnd d3d9Renderer initialized) (kindsFor true initialized) := by
  have preferring := owned.preferring (!d3d9Renderer) d3d9Renderer
  cases d3d : renderer.ptrD3DRenderer with
  | none =>
      simp only [setUpLayer, requested, vacant, d3d, if_true]
      rw [← vacant, ← d3d]
      exact preferring.setUpWinD3DLayer ⟨d3d, vacant⟩ wnd initialized
  | some pointer =>
      simp only [setUpLayer, requested, vacant, d3d, if_true]
      rw [← vacant, ← d3d]
      split
      case isTrue =>
        exact preferring.deleteD3D.setUpWinD3DLayer (deleteD3D_vacant vacant) wnd initialized
      case isFalse =>
        refine ⟨preferring, fun _ => ⟨.d3d, by cases initialized <;> decide, ?_⟩⟩
        simp only [targetKind, d3d]

/-- Without a window the GDI renderer stays, and the set-up returns false. -/
theorem setUpLayer_nullWindow {renderer : WinBjnRenderer} (owned : renderer.Owned)
    {d3d9Renderer : Bool} (requested : (d3d9Renderer && !renderer.windowless) = true)
    {pointer : GdiPointer} (gdi : renderer.ptrGdiRenderer = some pointer) (initialized : Bool)
    (kinds : List RendererKind) :
    Leaves (renderer.setUpLayer false d3d9Renderer initialized) kinds := by
  have vacant : renderer.ptrD3DRenderer = none :=
    owned.single.resolve_right (by rw [gdi]; exact Option.some_ne_none pointer)
  simp only [Leaves, setUpLayer, requested, gdi, setUpWinD3DLayer, vacant, if_true,
    Bool.false_eq_true, if_false, false_imp_iff, and_true]
  refine ⟨.inl rfl, ?_, owned.delivered⟩
  have balanced := owned.balanced
  rwa [held, vacant, gdi] at balanced

/-- A set-up that keeps to one kind leaves one renderer of an allowed kind, if it returns
true. -/
theorem setUpLayer_kept {renderer : WinBjnRenderer} (owned : renderer.Owned)
    {wnd d3d9Renderer : Bool} (keeps : renderer.KeepsKind wnd d3d9Renderer)
    (initialized : Bool) :
    Leaves (renderer.setUpLayer wnd d3d9Renderer initialized)
      (kindsFor (d3d9Renderer && !renderer.windowless) initialized) := by
  unfold KeepsKind at keeps
  cases requested : d3d9Renderer && !renderer.windowless with
  | false =>
      rw [requested, if_neg Bool.false_ne_true] at keeps
      exact setUpLayer_gdi owned requested keeps wnd initialized
  | true =>
      rw [requested, if_pos rfl] at keeps
      cases gdi : renderer.ptrGdiRenderer with
      | none => exact setUpLayer_d3d owned requested gdi wnd initialized
      | some pointer =>
          cases wnd with
          | false => exact setUpLayer_nullWindow owned requested gdi initialized _
          | true => exact absurd (keeps rfl) (by rw [gdi]; exact Option.some_ne_none pointer)

/-- A frame is delivered to the renderer that `Redraw` and `RenderIntoContext` draw from. -/
def Agrees (renderer : WinBjnRenderer) : Prop :=
  renderer.deliverTarget = renderer.redrawTarget ∧ renderer.deliverTarget = renderer.contextTarget

/-- Every renderer that was given a frame and is still there is the one drawn from. -/
def DrawsDelivered (renderer : WinBjnRenderer) : Prop :=
  ∀ id ∈ renderer.delivered, id ∉ renderer.ledger.deleted →
    renderer.redrawTarget = some id ∧ renderer.contextTarget = some id

theorem Owned.agrees {renderer : WinBjnRenderer} (owned : renderer.Owned) : renderer.Agrees := by
  refine ⟨rfl, ?_⟩
  unfold deliverTarget contextTarget
  cases owned.single with
  | inl empty => cases gdi : renderer.ptrGdiRenderer <;> simp [empty]
  | inr empty => cases d3d : renderer.ptrD3DRenderer <;> simp [empty]

theorem Owned.drawsDelivered {renderer : WinBjnRenderer} (owned : renderer.Owned) :
    renderer.DrawsDelivered := by
  intro id mem alive
  have mem := owned.balanced.mem_held (owned.delivered id mem) alive
  have drawn : renderer.contextTarget = some id := by
    unfold contextTarget
    cases gdi : renderer.ptrGdiRenderer with
    | none =>
        cases d3d : renderer.ptrD3DRenderer with
        | none => simp [held, gdi, d3d] at mem
        | some pointer =>
            simp only [held, gdi, d3d, Option.map_some, Option.map_none, Option.toList_some,
              Option.toList_none, List.append_nil, List.mem_singleton] at mem
            rw [mem]
    | some pointer =>
        have empty : renderer.ptrD3DRenderer = none :=
          owned.single.resolve_right (by rw [gdi]; exact Option.some_ne_none pointer)
        simp only [held, gdi, empty, Option.map_some, Option.map_none, Option.toList_some,
          Option.toList_none, List.nil_append, List.mem_singleton] at mem
        rw [mem]
  exact ⟨by rw [← owned.agrees.1, owned.agrees.2, drawn], drawn⟩

/-- A set-up that asks for the other kind leaves both pointers set or loses a renderer. -/
theorem setUpLayer_switched {renderer : WinBjnRenderer} (owned : renderer.Owned)
    {wnd d3d9Renderer : Bool} (switches : ¬ renderer.KeepsKind wnd d3d9Renderer)
    (initialized : Bool) :
    ¬ ((renderer.setUpLayer wnd d3d9Renderer initialized).2.Agrees ∧
      (renderer.setUpLayer wnd d3d9Renderer initialized).2.reset.ledger.DeletedOnce) := by
  intro settled
  obtain ⟨agrees, once⟩ := settled
  unfold KeepsKind at switches
  cases requested : d3d9Renderer && !renderer.windowless with
  | true =>
      rw [requested, if_pos rfl, Classical.not_imp] at switches
      obtain ⟨rfl, occupied⟩ := switches
      obtain ⟨gdi, present⟩ := Option.ne_none_iff_exists'.mp occupied
      have vacant := owned.single.resolve_right occupied
      have balanced := owned.balanced
      rw [held, vacant, present] at balanced
      cases initialized with
      | true =>
          have same : renderer.ledger.allocated = gdi.id := by
            simpa [setUpLayer, requested, present, setUpWinD3DLayer, newD3D, Ledger.allocate,
              deliverTarget, contextTarget] using agrees.2
          exact absurd (balanced.lt_allocated List.mem_cons_self) (by rw [same]; exact lt_irrefl _)
      | false =>
          have counted : 1 + renderer.ledger.deleted.length = renderer.ledger.allocated :=
            balanced.length
          have deleted := once.allocated_le_length
          simp only [setUpLayer, requested, present, setUpWinD3DLayer, newD3D, Ledger.allocate,
            deleteD3D, newGdi, reset, deleteGdi, Ledger.delete, if_true, Bool.false_eq_true,
            if_false, List.length_cons] at deleted
          omega
  | false =>
      rw [requested, if_neg Bool.false_ne_true] at switches
      obtain ⟨d3d, present⟩ := Option.ne_none_iff_exists'.mp switches
      have vacant := owned.single.resolve_left switches
      have balanced := owned.balanced
      rw [held, vacant, present] at balanced
      have same : d3d.id = renderer.ledger.allocated := by
        simpa [setUpLayer, requested, present, vacant, newGdi, Ledger.allocate, deliverTarget,
          contextTarget] using agrees.2
      exact absurd (balanced.lt_allocated List.mem_cons_self) (by rw [same]; exact lt_irrefl _)

/-- With the renderer, the kinds that the last set-up allows if it returned true. -/
structure Session where
  renderer : WinBjnRenderer
  allowed : Option (List RendererKind)
  deriving DecidableEq, Repr

namespace Session

def opened (windowless : Bool) : Session := ⟨create windowless, none⟩

def step (session : Session) : Call → Session
  | .setUpLayer wnd d3d9Renderer initialized =>
      let (result, renderer) := session.renderer.setUpLayer wnd d3d9Renderer initialized
      let kinds := kindsFor (d3d9Renderer && !session.renderer.windowless) initialized
      ⟨renderer, if result then some kinds else none⟩
  | .enableHWColorConv => { session with renderer := session.renderer.enableHWColorConv }
  | .deliverFrame => { session with renderer := session.renderer.deliverFrame }
  | .redraw => session
  | .renderIntoContext => session
  | .reset => ⟨session.renderer.reset, none⟩

/-- Frames and drawing meet in one renderer of a kind that was asked for, and a reset at
this point deletes every renderer there ever was, each once. -/
structure Settled (session : Session) : Prop where
  agrees : session.renderer.Agrees
  drawsDelivered : session.renderer.DrawsDelivered
  allowed : ∀ kinds, session.allowed = some kinds → session.renderer.Allowed kinds
  deletedOnce : session.renderer.reset.ledger.DeletedOnce

def KeepsKind (session : Session) : Call → Prop
  | .setUpLayer wnd d3d9Renderer _ => session.renderer.KeepsKind wnd d3d9Renderer
  | _ => True

structure Sound (session : Session) : Prop where
  owned : session.renderer.Owned
  allowed : ∀ kinds, session.allowed = some kinds → session.renderer.Allowed kinds

theorem opened_sound (windowless : Bool) : (opened windowless).Sound where
  owned := ⟨.inl rfl, Ledger.balanced_opened, fun _ mem => absurd mem List.not_mem_nil⟩
  allowed := by
    intro kinds requested
    cases requested

theorem Sound.settled {session : Session} (sound : session.Sound) : session.Settled where
  agrees := sound.owned.agrees
  drawsDelivered := sound.owned.drawsDelivered
  allowed := sound.allowed
  deletedOnce := sound.owned.deletedOnce_reset

theorem Sound.step {session : Session} (sound : session.Sound) {call : Call}
    (keeps : session.KeepsKind call) : (session.step call).Sound := by
  cases call with
  | setUpLayer wnd d3d9Renderer initialized =>
      obtain ⟨owned, allowed⟩ := setUpLayer_kept sound.owned keeps initialized
      refine ⟨owned, ?_⟩
      intro kinds requested
      simp only [Session.step, Option.ite_none_right_eq_some, Option.some.injEq] at requested
      obtain ⟨result, rfl⟩ := requested
      exact allowed result
  | enableHWColorConv =>
      exact ⟨⟨sound.owned.single, sound.owned.balanced, sound.owned.delivered⟩, sound.allowed⟩
  | deliverFrame =>
      refine ⟨⟨sound.owned.single, sound.owned.balanced, ?_⟩, sound.allowed⟩
      intro id mem
      cases List.mem_append.mp mem with
      | inl now =>
          apply sound.owned.balanced.lt_allocated
          exact mem_held_of_deliverTarget (Option.mem_toList.mp now)
      | inr before => exact sound.owned.delivered id before
  | redraw => exact sound
  | renderIntoContext => exact sound
  | reset =>
      refine ⟨sound.owned.reset, ?_⟩
      intro kinds requested
      cases requested

/-- A run is settled in every state exactly if no set-up switches the kind. -/
theorem settled_iff_keepsKind (windowless : Bool) (calls : List Call) :
    Throughout (total step) Settled (opened windowless) calls ↔
      Guarded (total step) KeepsKind (opened windowless) calls := by
  apply throughout_iff_guarded Sound
  · intro session sound
    exact sound.settled
  · intro session call next sound keeps taken
    cases taken
    exact sound.step keeps
  · intro session call sound switches
    refine ⟨session.step call, rfl, ?_⟩
    intro settled
    cases call with
    | setUpLayer wnd d3d9Renderer initialized =>
        exact setUpLayer_switched sound.owned switches initialized
          ⟨settled.agrees, settled.deletedOnce⟩
    | enableHWColorConv => exact switches trivial
    | deliverFrame => exact switches trivial
    | redraw => exact switches trivial
    | renderIntoContext => exact switches trivial
    | reset => exact switches trivial
  · exact opened_sound windowless

/-- Direct3D comes up, and then the software renderer is asked for. -/
theorem not_settled :
    ¬ ∀ (windowless : Bool) (calls : List Call),
      Throughout (total step) Settled (opened windowless) calls := by
  intro settled
  have reached := (settled false [.setUpLayer true true true, .setUpLayer true false true]).reached
    (execute_total step _ _)
  exact absurd reached.agrees.2 (by decide)

end Session

end WinBjnRenderer

end FiberApp.Render
