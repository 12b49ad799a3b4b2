import FiberApp.Foundation.Execution
import FiberApp.Render.BjnRenderDev
import Mathlib.Data.List.Perm.Basic
import Mathlib.Data.List.Range
import Mathlib.Data.List.Nodup

/-! Ownership of the frames of a renderer stream over whole runs: when every
frame it allocates is deleted exactly once and no borrowed frame is deleted. -/

set_option autoImplicit false

namespace FiberApp.Render.BjnRenderDev

open Foundation

def Stream.held (stream : Stream) : List VideoFrame :=
  stream.srcFrame.toList ++ stream.destFrame.toList

def VideoFrame.serial : VideoFrame → Option Nat
  | .allocated serial _ => some serial
  | .borrowed _ _ => none

def Numbered (stream : Stream) : Prop :=
  stream.allocated.map VideoFrame.serial = (List.range stream.allocated.length).map some

/-- Every allocated frame is either deleted or still held, and only once. -/
structure Owned (stream : Stream) : Prop where
  numbered : Numbered stream
  ledger : stream.allocated.Perm (stream.deleted ++ stream.held)

theorem Numbered.serial_lt {stream : Stream} (numbered : Numbered stream)
    {frame : VideoFrame} (member : frame ∈ stream.allocated) :
    ∃ serial, frame.serial = some serial ∧ serial < stream.allocated.length := by
  have mapped : frame.serial ∈ (List.range stream.allocated.length).map some := by
    rw [← numbered]
    exact List.mem_map_of_mem member
  obtain ⟨serial, bound, same⟩ := List.mem_map.mp mapped
  exact ⟨serial, same.symm, List.mem_range.mp bound⟩

theorem Numbered.not_borrowed {stream : Stream} (numbered : Numbered stream)
    {frame : VideoFrame} (member : frame ∈ stream.allocated) : frame.isBorrowed = false := by
  obtain ⟨serial, named, _⟩ := numbered.serial_lt member
  cases frame with
  | allocated serial isRGB => rfl
  | borrowed obj isRGB => simp [VideoFrame.serial] at named

theorem Numbered.nodup {stream : Stream} (numbered : Numbered stream) :
    stream.allocated.Nodup := by
  apply List.Nodup.of_map VideoFrame.serial
  rw [numbered]
  exact List.nodup_range.map fun _ _ same => Option.some.inj same

theorem Numbered.fresh {stream : Stream} (numbered : Numbered stream) (isRGB : Bool) :
    VideoFrame.allocated stream.allocated.length isRGB ∉ stream.allocated := by
  intro member
  obtain ⟨serial, named, bound⟩ := numbered.serial_lt member
  cases named
  exact Nat.lt_irrefl _ bound

theorem Numbered.newFrame {stream : Stream} (numbered : Numbered stream) (isRGB : Bool) :
    Numbered (stream.newFrame isRGB).1 := by
  unfold Numbered at numbered ⊢
  simp [Stream.newFrame, numbered, List.range_succ, VideoFrame.serial]

theorem Owned.src_not_borrowed {stream : Stream} (owned : Owned stream)
    {frame : VideoFrame} (held : stream.srcFrame = some frame) : frame.isBorrowed = false := by
  apply owned.numbered.not_borrowed
  rw [owned.ledger.mem_iff]
  simp [Stream.held, held]

/-! What one operation can do to the heap, whatever the state it starts from. -/

/-- A frame an operation can reach: one the stream held, one lent to it, or one
it allocates itself. -/
def Reachable (before : Stream) (frame : VideoFrame) : Prop :=
  frame ∈ before.held ∨ frame.isBorrowed = true ∨ frame ∉ before.allocated

structure HeapStep (before after : Stream) : Prop where
  numbered : Numbered after
  kept : before.allocated ⊆ after.allocated
  deleted : ∀ frame ∈ after.deleted, frame ∈ before.deleted ∨ Reachable before frame
  held : ∀ frame ∈ after.held, Reachable before frame

theorem HeapStep.refl {stream : Stream} (numbered : Numbered stream) :
    HeapStep stream stream where
  numbered := numbered
  kept := fun _ member => member
  deleted := fun _ member => .inl member
  held := fun _ member => .inl member

theorem HeapStep.reachable {before after : Stream} (step : HeapStep before after)
    {frame : VideoFrame} (reachable : Reachable after frame) : Reachable before frame := by
  rcases reachable with held | borrowed | fresh
  · exact step.held frame held
  · exact .inr (.inl borrowed)
  · exact .inr (.inr fun member => fresh (step.kept member))

theorem HeapStep.trans {first second third : Stream} (left : HeapStep first second)
    (right : HeapStep second third) : HeapStep first third where
  numbered := right.numbered
  kept := fun _ member => right.kept (left.kept member)
  deleted := by
    intro frame member
    rcases right.deleted frame member with earlier | reachable
    · exact left.deleted frame earlier
    · exact .inr (left.reachable reachable)
  held := fun frame member => left.reachable (right.held frame member)

theorem HeapStep.of_eq {before after : Stream} (numbered : Numbered before)
    (allocated : after.allocated = before.allocated) (deleted : after.deleted = before.deleted)
    (held : after.held = before.held) : HeapStep before after where
  numbered := by simpa only [Numbered, allocated] using numbered
  kept := by rw [allocated]; exact fun _ member => member
  deleted := by rw [deleted]; exact fun _ member => .inl member
  held := by rw [held]; exact fun _ member => .inl member

theorem notifyFrameSize_ledger (stream : Stream) :
    (notifyFrameSize stream).allocated = stream.allocated ∧
      (notifyFrameSize stream).deleted = stream.deleted ∧
      (notifyFrameSize stream).srcFrame = stream.srcFrame ∧
      (notifyFrameSize stream).destFrame = stream.destFrame ∧
      (notifyFrameSize stream).fmt = stream.fmt ∧
      (notifyFrameSize stream).rendId = stream.rendId := by
  unfold notifyFrameSize
  split <;> exact ⟨rfl, rfl, rfl, rfl, rfl, rfl⟩

theorem notifyFrameSize_heapStep {stream : Stream} (numbered : Numbered stream) :
    HeapStep stream (notifyFrameSize stream) := by
  obtain ⟨allocated, deleted, src, dest, _⟩ := notifyFrameSize_ledger stream
  exact .of_eq numbered allocated deleted (by rw [Stream.held, src, dest]; rfl)

theorem setSrcFrame_heapStep {stream : Stream} (numbered : Numbered stream)
    (frame : Option VideoFrame)
    (lent : ∀ held, frame = some held → held.isBorrowed = true) :
    HeapStep stream { stream with srcFrame := frame } where
  numbered := numbered
  kept := fun _ member => member
  deleted := fun _ member => .inl member
  held := by
    intro held member
    simp only [Stream.held, List.mem_append, Option.mem_toList] at member
    rcases member with src | dest
    · exact .inr (.inl (lent held src))
    · exact .inl (by simp [Stream.held, dest])

theorem dropI420Frame_heapStep {stream : Stream} (numbered : Numbered stream) :
    HeapStep stream (dropI420Frame stream) := by
  unfold dropI420Frame
  cases source : stream.srcFrame with
  | none => exact .refl numbered
  | some frame =>
      cases isRGB : frame.isRGBFrame with
      | true => simpa [isRGB] using HeapStep.refl numbered
      | false =>
          simpa [isRGB, VideoFrame.asI420] using
            setSrcFrame_heapStep numbered none (by simp)

theorem dropRGBFrame_heapStep {stream : Stream} (numbered : Numbered stream) :
    HeapStep stream (dropRGBFrame stream) := by
  unfold dropRGBFrame
  cases source : stream.srcFrame with
  | none => exact .refl numbered
  | some frame =>
      cases isRGB : frame.isRGBFrame with
      | false => simpa [isRGB] using HeapStep.refl numbered
      | true =>
          refine ⟨by simpa [Numbered, isRGB, Stream.deleteFrame] using numbered,
            by simp [isRGB, Stream.deleteFrame], ?_, ?_⟩
          · intro gone member
            simp only [isRGB, Stream.deleteFrame, VideoFrame.asRGB, ↓reduceIte,
              Option.toList_some, List.mem_append, List.mem_singleton] at member
            rcases member with earlier | rfl
            · exact .inl earlier
            · exact .inr (.inl (by simp [Stream.held, source]))
          · intro held member
            simp only [isRGB, ↓reduceIte, Stream.held, Stream.deleteFrame, Option.toList_none,
              List.nil_append] at member
            exact .inl (List.mem_append_right _ member)

theorem createSrcFrame_heapStep {stream : Stream} (numbered : Numbered stream) (isRGB : Bool) :
    HeapStep stream (createSrcFrame stream isRGB) := by
  unfold createSrcFrame
  cases source : stream.srcFrame with
  | some frame => exact .refl numbered
  | none =>
      refine ⟨numbered.newFrame isRGB, by simp [Stream.newFrame], fun _ member => .inl member, ?_⟩
      intro held member
      simp only [Stream.held, Stream.newFrame, Option.toList_some, List.mem_append,
        List.mem_singleton] at member
      rcases member with rfl | dest
      · exact .inr (.inr (numbered.fresh isRGB))
      · exact .inl (List.mem_append_right _ dest)

theorem createDestFrame_heapStep {stream : Stream} (numbered : Numbered stream) :
    HeapStep stream (createDestFrame stream) := by
  unfold createDestFrame
  cases destination : stream.destFrame with
  | some frame => exact .refl numbered
  | none =>
      refine ⟨numbered.newFrame false, by simp [Stream.newFrame], fun _ member => .inl member, ?_⟩
      intro held member
      simp only [Stream.held, Stream.newFrame, Option.toList_some, List.mem_append,
        List.mem_singleton] at member
      rcases member with source | rfl
      · exact .inl (List.mem_append_left _ source)
      · exact .inr (.inr (numbered.fresh false))

theorem forgetBorrowed_heapStep {stream : Stream} (numbered : Numbered stream)
    (frame : RefFrame) : HeapStep stream (forgetBorrowed stream frame) := by
  unfold forgetBorrowed
  split
  · exact setSrcFrame_heapStep numbered none (by simp)
  · exact .refl numbered

theorem prepareSrcFrame_heapStep {stream : Stream} (numbered : Numbered stream)
    (frame : RefFrame) : HeapStep stream (prepareSrcFrame stream frame) := by
  unfold prepareSrcFrame
  cases frame.obj with
  | none =>
      dsimp only
      split
      · have dropped := dropI420Frame_heapStep numbered
        exact dropped.trans (createSrcFrame_heapStep dropped.numbered true)
      · have dropped := dropRGBFrame_heapStep numbered
        exact dropped.trans (createSrcFrame_heapStep dropped.numbered false)
  | some object =>
      refine setSrcFrame_heapStep numbered _ ?_
      rintro held ⟨⟩
      rfl

theorem call_heapStep {stream : Stream} (numbered : Numbered stream) (call : RendererCall) :
    HeapStep stream (stream.call call) :=
  .of_eq numbered rfl rfl rfl

theorem deliverSrcFrame_heapStep {stream : Stream} (numbered : Numbered stream)
    (frame : RefFrame) : HeapStep stream (deliverSrcFrame stream frame) := by
  unfold deliverSrcFrame
  split
  · split
    · have created := createDestFrame_heapStep numbered
      have called := created.trans
        (call_heapStep created.numbered (.deliverFrame (createDestFrame stream).destFrame))
      exact called.trans (forgetBorrowed_heapStep called.numbered frame)
    · exact .refl numbered
  · have called := call_heapStep numbered (.deliverFrame stream.srcFrame)
    exact called.trans (forgetBorrowed_heapStep called.numbered frame)

def receiveFrame (stream : Stream) (frame : RefFrame) : Stream :=
  notifyFrameSize { stream with lastTs := frame.timestamp }

theorem putFrame_idle {stream : Stream} {frame : RefFrame}
    (idle : ¬ (stream.isRunning = true ∧ stream.renderWindow ≠ none)) :
    perform stream (.putFrame (some frame)) = { stream with lastTs := frame.timestamp } := by
  simp only [perform, bjnRenStreamPutFrame]
  split
  · rfl
  · split
    · rfl
    · next running window => exact absurd ⟨by simpa using running, window⟩ idle

theorem putFrame_active {stream : Stream} {frame : RefFrame}
    (running : stream.isRunning = true) (window : stream.renderWindow ≠ none) :
    perform stream (.putFrame (some frame)) =
      deliverSrcFrame (prepareSrcFrame (receiveFrame stream frame) frame) frame := by
  simp [perform, bjnRenStreamPutFrame, running, window, receiveFrame]

theorem perform_heapStep {stream : Stream} (numbered : Numbered stream)
    (operation : Operation) : HeapStep stream (perform stream operation) := by
  cases operation with
  | start => exact .of_eq numbered rfl rfl rfl
  | stop => exact .of_eq numbered rfl rfl rfl
  | setCap capability =>
      cases capability with
      | format fmt => exact .of_eq numbered rfl rfl rfl
      | outputWindow window =>
          simp only [perform, bjnRenStreamSetCap]
          split <;> exact .of_eq numbered rfl rfl rfl
  | putFrame frame =>
      cases frame with
      | none => exact .refl numbered
      | some frame =>
          have stamped : HeapStep stream { stream with lastTs := frame.timestamp } :=
            .of_eq numbered rfl rfl rfl
          by_cases active : stream.isRunning = true ∧ stream.renderWindow ≠ none
          · rw [putFrame_active active.1 active.2]
            have notified : HeapStep stream (receiveFrame stream frame) :=
              stamped.trans (notifyFrameSize_heapStep stamped.numbered)
            have prepared := notified.trans (prepareSrcFrame_heapStep notified.numbered frame)
            exact prepared.trans (deliverSrcFrame_heapStep prepared.numbered frame)
          · rw [putFrame_idle active]
            exact stamped

/-! A frame that is neither held nor deleted is lost for good. -/

structure Leaked (frame : VideoFrame) (stream : Stream) : Prop where
  numbered : Numbered stream
  allocated : frame ∈ stream.allocated
  notDeleted : frame ∉ stream.deleted
  notHeld : frame ∉ stream.held

theorem Leaked.not_reachable {frame : VideoFrame} {stream : Stream}
    (leaked : Leaked frame stream) : ¬ Reachable stream frame := by
  rintro (held | borrowed | fresh)
  · exact leaked.notHeld held
  · simp [leaked.numbered.not_borrowed leaked.allocated] at borrowed
  · exact fresh leaked.allocated

theorem Leaked.step {frame : VideoFrame} {before after : Stream}
    (leaked : Leaked frame before) (step : HeapStep before after) : Leaked frame after where
  numbered := step.numbered
  allocated := step.kept leaked.allocated
  notDeleted := by
    intro member
    rcases step.deleted frame member with earlier | reachable
    · exact leaked.notDeleted earlier
    · exact leaked.not_reachable reachable
  notHeld := fun member => leaked.not_reachable (step.held frame member)

theorem Leaked.run {frame : VideoFrame} {stream : Stream} (leaked : Leaked frame stream)
    (operations : List Operation) : Leaked frame (operations.foldl perform stream) := by
  induction operations generalizing stream with
  | nil => exact leaked
  | cons operation rest ih =>
      exact ih (leaked.step (perform_heapStep leaked.numbered operation))

/-! Destruction deletes what is still held. -/

theorem deleteByClass_deleted (stream : Stream) (frame : VideoFrame) :
    (deleteByClass stream frame).deleted = stream.deleted ++ [frame] := by
  cases isRGB : frame.isRGBFrame <;>
    simp [deleteByClass, isRGB, Stream.deleteFrame, VideoFrame.asI420, VideoFrame.asRGB]

theorem deleteByClass_destFrame (stream : Stream) (frame : VideoFrame) :
    (deleteByClass stream frame).destFrame = stream.destFrame := by
  unfold deleteByClass
  split <;> rfl

theorem deleteByClass_allocated (stream : Stream) (frame : VideoFrame) :
    (deleteByClass stream frame).allocated = stream.allocated := by
  unfold deleteByClass
  split <;> rfl

theorem bjnRenStreamDestroy_deleted (stream : Stream) :
    (bjnRenStreamDestroy stream).deleted = stream.deleted ++ stream.held := by
  cases source : stream.srcFrame <;> cases destination : stream.destFrame <;>
    simp [bjnRenStreamDestroy, Stream.held, source, destination, deleteByClass_deleted,
      deleteByClass_destFrame]

theorem bjnRenStreamDestroy_allocated (stream : Stream) :
    (bjnRenStreamDestroy stream).allocated = stream.allocated := by
  cases source : stream.srcFrame <;> cases destination : stream.destFrame <;>
    simp [bjnRenStreamDestroy, source, destination, deleteByClass_allocated,
      deleteByClass_destFrame]

/-! The calls that keep the ledger balanced. -/

/-- The frame source and the ownership the stream is left with fit together: a
reference-counted frame needs an empty `src_frame` and must not be an RGB frame
for the self view, and an RGB frame from the decode branch must not find an
I420 frame in `src_frame`. -/
def FrameAccepted (stream : Stream) (frame : RefFrame) : Prop :=
  match frame.obj with
  | some _ => stream.srcFrame = none ∧ ¬ (stream.rendId = 0 ∧ stream.fmt.id = .rgb32)
  | none => stream.fmt.id = .rgb32 → ∀ held, stream.srcFrame = some held → held.isRGBFrame = true

def Accepted (stream : Stream) : Operation → Prop
  | .putFrame (some frame) =>
      stream.isRunning = true → stream.renderWindow ≠ none → FrameAccepted stream frame
  | _ => True

theorem Owned.of_eq {before after : Stream} (owned : Owned before)
    (allocated : after.allocated = before.allocated) (deleted : after.deleted = before.deleted)
    (held : after.held = before.held) : Owned after where
  numbered := by simpa only [Numbered, allocated] using owned.numbered
  ledger := by rw [allocated, deleted, held]; exact owned.ledger

theorem createSrcFrame_owned {stream : Stream} (owned : Owned stream) (isRGB : Bool) :
    Owned (createSrcFrame stream isRGB) := by
  refine ⟨(createSrcFrame_heapStep owned.numbered isRGB).numbered, ?_⟩
  have ledger := owned.ledger
  unfold createSrcFrame
  cases source : stream.srcFrame with
  | some frame => exact ledger
  | none =>
      simp only [Stream.held, source, Option.toList_none, List.nil_append, Stream.newFrame,
        Option.toList_some] at ledger ⊢
      refine (ledger.append_right _).trans ?_
      simp only [List.append_assoc]
      exact .append_left _ List.perm_append_comm

theorem createDestFrame_owned {stream : Stream} (owned : Owned stream) :
    Owned (createDestFrame stream) := by
  refine ⟨(createDestFrame_heapStep owned.numbered).numbered, ?_⟩
  have ledger := owned.ledger
  unfold createDestFrame
  cases destination : stream.destFrame with
  | some frame => exact ledger
  | none =>
      simp only [Stream.held, destination, Option.toList_none, List.append_nil, Stream.newFrame,
        Option.toList_some] at ledger ⊢
      refine (ledger.append_right _).trans ?_
      simp only [List.append_assoc]
      exact .refl _

theorem dropRGBFrame_owned {stream : Stream} (owned : Owned stream) :
    Owned (dropRGBFrame stream) := by
  refine ⟨(dropRGBFrame_heapStep owned.numbered).numbered, ?_⟩
  have ledger := owned.ledger
  unfold dropRGBFrame
  cases source : stream.srcFrame with
  | none => exact ledger
  | some frame =>
      cases isRGB : frame.isRGBFrame with
      | false => simpa [isRGB] using ledger
      | true =>
          simpa [isRGB, Stream.held, source, Stream.deleteFrame, VideoFrame.asRGB] using ledger

theorem dropI420Frame_of_rgb {stream : Stream}
    (rgb : ∀ held, stream.srcFrame = some held → held.isRGBFrame = true) :
    dropI420Frame stream = stream := by
  unfold dropI420Frame
  cases source : stream.srcFrame with
  | none => rfl
  | some frame => simp [rgb frame source]

theorem prepareSrcFrame_owned {stream : Stream} (owned : Owned stream) {frame : RefFrame}
    (decoded : frame.obj = none) (accepted : FrameAccepted stream frame) :
    Owned (prepareSrcFrame stream frame) := by
  simp only [FrameAccepted, decoded] at accepted
  simp only [prepareSrcFrame, decoded]
  split
  · next rgb32 =>
      rw [dropI420Frame_of_rgb (accepted rgb32)]
      exact createSrcFrame_owned owned true
  · exact createSrcFrame_owned (dropRGBFrame_owned owned) false

theorem createDestFrame_setSrcFrame (stream : Stream) (frame : Option VideoFrame) :
    createDestFrame { stream with srcFrame := frame } =
      { createDestFrame stream with srcFrame := frame } := by
  cases destination : stream.destFrame <;>
    simp [createDestFrame, destination, Stream.newFrame]

theorem createDestFrame_srcFrame (stream : Stream) :
    (createDestFrame stream).srcFrame = stream.srcFrame := by
  cases destination : stream.destFrame <;>
    simp [createDestFrame, destination, Stream.newFrame]

theorem deliverSrcFrame_owned {stream : Stream} (owned : Owned stream) {frame : RefFrame}
    (decoded : frame.obj = none) : Owned (deliverSrcFrame stream frame) := by
  simp only [deliverSrcFrame, forgetBorrowed, decoded, Option.isSome_none,
    Bool.false_eq_true, ↓reduceIte]
  split
  · split
    · exact (createDestFrame_owned owned).of_eq rfl rfl rfl
    · exact owned
  · exact owned.of_eq rfl rfl rfl

theorem Owned.lendFrame {stream : Stream} (owned : Owned stream) {frame : RefFrame}
    {object : RefObject} (lent : frame.obj = some object)
    (accepted : FrameAccepted stream frame) :
    Owned (deliverSrcFrame (prepareSrcFrame stream frame) frame) := by
  simp only [FrameAccepted, lent] at accepted
  obtain ⟨empty, notRGB⟩ := accepted
  simp only [deliverSrcFrame, prepareSrcFrame, forgetBorrowed, lent,
    Option.isSome_some, ↓reduceIte]
  split
  · next selfView =>
      rw [if_pos (by intro rgb; exact notRGB ⟨selfView, rgb⟩)]
      rw [createDestFrame_setSrcFrame]
      refine (createDestFrame_owned owned).of_eq rfl rfl ?_
      simp [Stream.held, Stream.call, createDestFrame_srcFrame, empty]
  · refine owned.of_eq rfl rfl ?_
    simp [Stream.held, Stream.call, empty]

theorem receiveFrame_owned {stream : Stream} (owned : Owned stream) (frame : RefFrame) :
    Owned (receiveFrame stream frame) := by
  obtain ⟨allocated, deleted, src, dest, _⟩ :=
    notifyFrameSize_ledger { stream with lastTs := frame.timestamp }
  exact owned.of_eq allocated deleted
    (by rw [Stream.held, receiveFrame, src, dest]; rfl)

theorem frameAccepted_receiveFrame {stream : Stream} {frame : RefFrame} :
    FrameAccepted (receiveFrame stream frame) frame ↔ FrameAccepted stream frame := by
  obtain ⟨_, _, src, _, fmt, rendId⟩ :=
    notifyFrameSize_ledger { stream with lastTs := frame.timestamp }
  simp only [FrameAccepted, receiveFrame, src, fmt, rendId]

theorem perform_owned {stream : Stream} (owned : Owned stream) {operation : Operation}
    (accepted : Accepted stream operation) : Owned (perform stream operation) := by
  cases operation with
  | start => exact owned.of_eq rfl rfl rfl
  | stop => exact owned.of_eq rfl rfl rfl
  | setCap capability =>
      cases capability with
      | format fmt => exact owned.of_eq rfl rfl rfl
      | outputWindow window =>
          simp only [perform, bjnRenStreamSetCap]
          split <;> exact owned.of_eq rfl rfl rfl
  | putFrame frame =>
      cases frame with
      | none => exact owned
      | some frame =>
          by_cases active : stream.isRunning = true ∧ stream.renderWindow ≠ none
          · rw [putFrame_active active.1 active.2]
            have admitted := frameAccepted_receiveFrame.mpr (accepted active.1 active.2)
            cases origin : frame.obj with
            | none =>
                exact deliverSrcFrame_owned
                  (prepareSrcFrame_owned (receiveFrame_owned owned frame) origin admitted) origin
            | some object => exact (receiveFrame_owned owned frame).lendFrame origin admitted
          · rw [putFrame_idle active]
            exact owned.of_eq rfl rfl rfl

/-! The calls that lose a frame. -/

theorem Owned.held_allocated {stream : Stream} (owned : Owned stream) {frame : VideoFrame}
    (held : frame ∈ stream.held) : frame ∈ stream.allocated := by
  rw [owned.ledger.mem_iff]
  exact List.mem_append_right _ held

theorem Owned.held_not_deleted {stream : Stream} (owned : Owned stream) {frame : VideoFrame}
    (held : frame ∈ stream.held) : frame ∉ stream.deleted := by
  intro member
  have unique := owned.ledger.nodup_iff.mp owned.numbered.nodup
  exact (List.nodup_append.mp unique).2.2 frame member frame held rfl

/-- Overwriting an owned `src_frame` loses the frame it pointed to. -/
theorem Owned.leaked_of_overwrite {stream : Stream} (owned : Owned stream)
    {frame : VideoFrame} (source : stream.srcFrame = some frame)
    (replacement : Option VideoFrame) (different : replacement ≠ some frame) :
    Leaked frame { stream with srcFrame := replacement } := by
  have held : frame ∈ stream.held := by simp [Stream.held, source]
  refine ⟨owned.numbered, owned.held_allocated held, owned.held_not_deleted held, ?_⟩
  have unique := owned.ledger.nodup_iff.mp owned.numbered.nodup
  have heldUnique := (List.nodup_append.mp unique).2.1
  simp only [Stream.held, source, Option.toList_some, List.nodup_append, List.mem_singleton,
    Option.mem_toList, forall_eq] at heldUnique
  simp only [Stream.held, List.mem_append, Option.mem_toList, not_or]
  exact ⟨different, fun destination => heldUnique.2.2 frame destination rfl⟩

def SrcNotBorrowed (stream : Stream) : Prop :=
  ∀ frame, stream.srcFrame = some frame → frame.isBorrowed = false

theorem deliverSrcFrame_self_rgb {stream : Stream} (selfView : stream.rendId = 0)
    (rgb : stream.fmt.id = .rgb32) (frame : RefFrame) :
    deliverSrcFrame stream frame = stream := by
  simp [deliverSrcFrame, selfView, rgb]

theorem Owned.refused {stream : Stream} (owned : Owned stream) {frame : RefFrame}
    (refused : ¬ FrameAccepted stream frame) :
    (∃ lost, Leaked lost (deliverSrcFrame
      (prepareSrcFrame stream frame) frame)) ∨
    ¬ SrcNotBorrowed (deliverSrcFrame
      (prepareSrcFrame stream frame) frame) := by
  cases origin : frame.obj with
  | some object =>
      by_cases selfRGB : stream.rendId = 0 ∧ stream.fmt.id = .rgb32
      · right
        intro property
        rw [deliverSrcFrame_self_rgb (by simpa [prepareSrcFrame, origin] using
          selfRGB.1) (by simpa [prepareSrcFrame, origin] using selfRGB.2)] at property
        have borrowed := property (.borrowed object.address object.isRGB)
          (by simp [prepareSrcFrame, origin])
        simp [VideoFrame.isBorrowed] at borrowed
      · left
        have occupied : stream.srcFrame ≠ none := by
          intro empty
          exact refused (by simpa only [FrameAccepted, origin] using ⟨empty, selfRGB⟩)
        obtain ⟨held, source⟩ := Option.ne_none_iff_exists'.mp occupied
        have different : some (VideoFrame.borrowed object.address object.isRGB) ≠ some held := by
          rintro ⟨⟩
          have notBorrowed := owned.src_not_borrowed source
          simp [VideoFrame.isBorrowed] at notBorrowed
        have lost : Leaked held (prepareSrcFrame stream frame) := by
          simpa only [prepareSrcFrame, origin] using
            owned.leaked_of_overwrite source _ different
        exact ⟨held, lost.step (deliverSrcFrame_heapStep lost.numbered frame)⟩
  | none =>
      left
      simp only [FrameAccepted, origin, not_forall] at refused
      obtain ⟨rgb, held, source, notRGB⟩ := refused
      have dropped : Leaked held (dropI420Frame stream) := by
        simpa [dropI420Frame, source, notRGB, VideoFrame.asI420] using
          owned.leaked_of_overwrite source none (by simp)
      have prepared : Leaked held (prepareSrcFrame stream frame) := by
        simpa only [prepareSrcFrame, origin, rgb, ↓reduceIte] using
          dropped.step (createSrcFrame_heapStep dropped.numbered true)
      exact ⟨held, prepared.step (deliverSrcFrame_heapStep prepared.numbered frame)⟩

theorem Owned.perform_refused {stream : Stream} (owned : Owned stream) {operation : Operation}
    (refused : ¬ Accepted stream operation) :
    (∃ lost, Leaked lost (perform stream operation)) ∨
      ¬ SrcNotBorrowed (perform stream operation) := by
  cases operation with
  | start => exact absurd trivial refused
  | stop => exact absurd trivial refused
  | setCap capability => exact absurd trivial refused
  | putFrame frame =>
      cases frame with
      | none => exact absurd trivial refused
      | some frame =>
          simp only [Accepted, Classical.not_imp] at refused
          obtain ⟨running, window, refused⟩ := refused
          rw [putFrame_active running window]
          exact (receiveFrame_owned owned frame).refused
            (fun admitted => refused (frameAccepted_receiveFrame.mp admitted))

/-! Whole runs. -/

/-- Every allocation was deleted exactly once and nothing else was. -/
structure ReleasedOnce (stream : Stream) : Prop where
  once : stream.deleted.Nodup
  complete : ∀ frame, frame ∈ stream.deleted ↔ frame ∈ stream.allocated
  ownOnly : ∀ frame ∈ stream.deleted, frame.isBorrowed = false

/-- The ownership contract of a stream that performs the operations and is then destroyed. -/
def OwnershipKept (stream : Stream) (operations : List Operation) : Prop :=
  Throughout (total perform) SrcNotBorrowed stream operations ∧
    ReleasedOnce (bjnRenStreamDestroy (operations.foldl perform stream))

theorem Owned.releasedOnce {stream : Stream} (owned : Owned stream) :
    ReleasedOnce (bjnRenStreamDestroy stream) where
  once := by
    rw [bjnRenStreamDestroy_deleted]
    exact owned.ledger.nodup_iff.mp owned.numbered.nodup
  complete := by
    intro frame
    rw [bjnRenStreamDestroy_deleted, bjnRenStreamDestroy_allocated, owned.ledger.mem_iff]
  ownOnly := by
    intro frame member
    rw [bjnRenStreamDestroy_deleted, ← owned.ledger.mem_iff] at member
    exact owned.numbered.not_borrowed member

theorem Leaked.not_releasedOnce {frame : VideoFrame} {stream : Stream}
    (leaked : Leaked frame stream) : ¬ ReleasedOnce (bjnRenStreamDestroy stream) := by
  intro released
  have member := (released.complete frame).mpr
    (by rw [bjnRenStreamDestroy_allocated]; exact leaked.allocated)
  rw [bjnRenStreamDestroy_deleted, List.mem_append] at member
  exact member.elim leaked.notDeleted leaked.notHeld

theorem Owned.ownershipKept_iff {stream : Stream} (owned : Owned stream)
    (operations : List Operation) :
    OwnershipKept stream operations ↔ Guarded (total perform) Accepted stream operations := by
  induction operations generalizing stream with
  | nil => exact ⟨fun _ => trivial, fun _ => ⟨fun _ => owned.src_not_borrowed, owned.releasedOnce⟩⟩
  | cons operation rest ih =>
      constructor
      · rintro ⟨between, released⟩
        have admitted : Accepted stream operation := by
          by_contra refused
          rcases owned.perform_refused refused with ⟨lost, leaked⟩ | borrowed
          · exact (leaked.run rest).not_releasedOnce released
          · exact borrowed (between.2 _ rfl).start
        refine ⟨admitted, ?_⟩
        rintro next ⟨⟩
        exact (ih (perform_owned owned admitted)).mp ⟨between.2 _ rfl, released⟩
      · rintro ⟨admitted, guarded⟩
        obtain ⟨between, released⟩ := (ih (perform_owned owned admitted)).mpr (guarded _ rfl)
        refine ⟨⟨fun _ => owned.src_not_borrowed, ?_⟩, released⟩
        rintro next ⟨⟩
        exact between

theorem create_owned (rendId : Nat) (fmt : VideoFormat) :
    Owned (bjnRenFactoryCreateStream rendId fmt) where
  numbered := rfl
  ledger := .refl _

/-- A new stream keeps the ownership contract through a sequence of operations
and its destruction exactly when every frame put finds the stream in a state
that accepts it. -/
theorem bjnRenStream_ownershipKept_iff (rendId : Nat) (fmt : VideoFormat)
    (operations : List Operation) :
    OwnershipKept (bjnRenFactoryCreateStream rendId fmt) operations ↔
      Guarded (total perform) Accepted (bjnRenFactoryCreateStream rendId fmt) operations :=
  (create_owned rendId fmt).ownershipKept_iff operations

theorem bjnRenStream_ownership_lost :
    ¬ OwnershipKept (bjnRenFactoryCreateStream 1 ⟨.i420, 1280, 720⟩)
      [.setCap (.outputWindow (some 1)), .start, .putFrame (some ⟨1, none⟩),
        .putFrame (some ⟨2, some ⟨7, false⟩⟩)] := by
  rintro ⟨_, released⟩
  have member := (released.complete (.allocated 0 false)).mpr (by decide)
  revert member
  decide

end FiberApp.Render.BjnRenderDev
