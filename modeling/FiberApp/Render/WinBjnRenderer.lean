import FiberApp.Foundation.Ownership

/-! `WinBjnRenderer` of `winbjnrenderer.cc`: which of its two renderers each operation uses.
A renderer is the number of its allocation. What it draws is left out. -/

set_option autoImplicit false

namespace FiberApp.Render

open Foundation

inductive RendererKind
  | d3d
  | gdi
  deriving DecidableEq, Repr

structure D3DPointer where
  id : Nat
  isHwColorConv : Bool
  deriving DecidableEq, Repr

/-- `wnd` is whether the window handle is not null. -/
structure GdiPointer where
  id : Nat
  wnd : Bool
  deriving DecidableEq, Repr

/-- `ledger` and `delivered` record the allocations and where each frame went. -/
structure WinBjnRenderer where
  ptrD3DRenderer : Option D3DPointer
  ptrGdiRenderer : Option GdiPointer
  windowless : Bool
  d3dEnabled : Bool
  hwColorConv : Bool
  softwareRenderer : Bool
  ledger : Ledger
  delivered : List Nat
  deriving DecidableEq, Repr

namespace WinBjnRenderer

def create (windowless : Bool) : WinBjnRenderer where
  ptrD3DRenderer := none
  ptrGdiRenderer := none
  windowless := windowless
  d3dEnabled := true
  hwColorConv := false
  softwareRenderer := false
  ledger := Ledger.opened
  delivered := []

/-- `new D3DVideoRenderer`, stored over whatever the pointer was. -/
def newD3D (renderer : WinBjnRenderer) : WinBjnRenderer :=
  let (id, ledger) := renderer.ledger.allocate
  { renderer with ptrD3DRenderer := some ⟨id, renderer.hwColorConv⟩, ledger := ledger }

/-- `new GdiVideoRenderer`, which is never null. -/
def newGdi (wnd : Bool) (renderer : WinBjnRenderer) : WinBjnRenderer :=
  let (id, ledger) := renderer.ledger.allocate
  { renderer with ptrGdiRenderer := some ⟨id, wnd⟩, ledger := ledger }

def deleteD3D (renderer : WinBjnRenderer) : WinBjnRenderer :=
  match renderer.ptrD3DRenderer with
  | none => renderer
  | some d3d =>
      { renderer with ptrD3DRenderer := none, ledger := renderer.ledger.delete d3d.id }

def deleteGdi (renderer : WinBjnRenderer) : WinBjnRenderer :=
  match renderer.ptrGdiRenderer with
  | none => renderer
  | some gdi =>
      { renderer with ptrGdiRenderer := none, ledger := renderer.ledger.delete gdi.id }

/-- `initialized` is what `Init` returns if it is called. -/
def setUpWinD3DLayer (hwin initialized : Bool) (renderer : WinBjnRenderer) :
    Bool × WinBjnRenderer :=
  let renderer := if hwin then renderer.newD3D else renderer
  match renderer.ptrD3DRenderer with
  | none => (false, renderer)
  | some _ =>
      if initialized then (true, renderer)
      else (true, renderer.deleteD3D.newGdi hwin)

def setUpLayer (wnd d3d9Renderer initialized : Bool) (renderer : WinBjnRenderer) :
    Bool × WinBjnRenderer :=
  let renderer :=
    { renderer with softwareRenderer := !d3d9Renderer, d3dEnabled := d3d9Renderer }
  if d3d9Renderer && !renderer.windowless then
    match renderer.ptrGdiRenderer, renderer.ptrD3DRenderer with
    | some gdi, _ =>
        { renderer with ptrGdiRenderer := some { gdi with wnd := false } }.setUpWinD3DLayer
          wnd initialized
    | none, none => renderer.setUpWinD3DLayer wnd initialized
    | none, some d3d =>
        if renderer.hwColorConv ≠ d3d.isHwColorConv then
          renderer.deleteD3D.setUpWinD3DLayer wnd initialized
        else (true, renderer)
  else
    match renderer.ptrGdiRenderer with
    | none => (true, renderer.newGdi wnd)
    | some _ => (true, renderer)

/-- The widget is left out. -/
def reset (renderer : WinBjnRenderer) : WinBjnRenderer := renderer.deleteD3D.deleteGdi

def enableHWColorConv (renderer : WinBjnRenderer) : WinBjnRenderer :=
  { renderer with hwColorConv := true }

/-- Where `DeliverFrame` passes the frame on to. -/
def deliverTarget (renderer : WinBjnRenderer) : Option Nat :=
  match renderer.ptrD3DRenderer, renderer.ptrGdiRenderer with
  | some d3d, _ => some d3d.id
  | none, some gdi => some gdi.id
  | none, none => none

def deliverFrame (renderer : WinBjnRenderer) : WinBjnRenderer :=
  { renderer with delivered := renderer.deliverTarget.toList ++ renderer.delivered }

/-- What `Redraw` draws from. -/
def redrawTarget (renderer : WinBjnRenderer) : Option Nat :=
  match renderer.ptrD3DRenderer, renderer.ptrGdiRenderer with
  | some d3d, _ => some d3d.id
  | none, some gdi => some gdi.id
  | none, none => none

/-- What `RenderIntoContext` draws from. -/
def contextTarget (renderer : WinBjnRenderer) : Option Nat :=
  match renderer.ptrGdiRenderer, renderer.ptrD3DRenderer with
  | some gdi, _ => some gdi.id
  | none, some d3d => some d3d.id
  | none, none => none

/-- The kind of the renderer that frames are delivered to. -/
def targetKind (renderer : WinBjnRenderer) : Option RendererKind :=
  match renderer.ptrD3DRenderer, renderer.ptrGdiRenderer with
  | some _, _ => some .d3d
  | none, some _ => some .gdi
  | none, none => none

/-- A call with the answers of the system. Drawing changes nothing here. -/
inductive Call
  | setUpLayer (wnd d3d9Renderer initialized : Bool)
  | enableHWColorConv
  | deliverFrame
  | redraw
  | renderIntoContext
  | reset
  deriving DecidableEq, Repr

end WinBjnRenderer

end FiberApp.Render
