import FiberApp.Foundation.Execution
import FiberApp.Bandwidth.SharedPtr
import Mathlib.Data.List.Perm.Basic

/-! Every stored count is the number of live handles of its object, and an object
is deleted once, when the last of them goes. -/

set_option autoImplicit false

namespace FiberApp.Bandwidth

open Foundation

namespace SharedPtr

def refersTo (object : Nat) (handle : SharedPtr) : Bool := handle.object = some object

def sharesRef (ref : Nat) (handle : SharedPtr) : Bool := handle.mRef = some ref

/-- Handles, temporaries included, and the memory behind them. -/
structure Counted (live : List SharedPtr) (memory : Memory) : Prop where
  noFault : memory.fault = false
  sameObject : ∀ first ∈ live, ∀ second ∈ live,
    first.object = second.object ↔ first.mRef = second.mRef
  null : ∀ handle ∈ live, handle.object = none ↔ handle.mRef = none
  counts : ∀ handle ∈ live, ∀ ref, handle.mRef = some ref →
    memory.counts ref = some (live.countP (sharesRef ref) : Int)
  owned : ∀ ref, memory.counts ref ≠ none → ∃ handle ∈ live, handle.mRef = some ref
  fresh : ∀ handle ∈ live, ∀ ref, handle.mRef = some ref → ref < memory.nextRef
  adopted : ∀ handle ∈ live, ∀ object, handle.object = some object → object ∈ memory.adopted
  released : ∀ object, object ∈ memory.released ↔
    object ∈ memory.adopted ∧ ∀ handle ∈ live, handle.object ≠ some object
  once : memory.released.Nodup

theorem counted_initial : Counted [] .initial where
  noFault := rfl
  sameObject := by simp
  null := by simp
  counts := by simp
  owned := by simp [Memory.initial]
  fresh := by simp
  adopted := by simp
  released := by simp [Memory.initial]
  once := List.nodup_nil

theorem Counted.perm {live other : List SharedPtr} {memory : Memory}
    (counted : Counted live memory) (perm : live.Perm other) : Counted other memory where
  noFault := counted.noFault
  sameObject := by
    intro first firstLive second secondLive
    exact counted.sameObject first (perm.mem_iff.mpr firstLive) second
      (perm.mem_iff.mpr secondLive)
  null := fun handle member => counted.null handle (perm.mem_iff.mpr member)
  counts := by
    intro handle member ref shares
    rw [← perm.countP_eq]
    exact counted.counts handle (perm.mem_iff.mpr member) ref shares
  owned := by
    intro ref stored
    obtain ⟨handle, member, shares⟩ := counted.owned ref stored
    exact ⟨handle, perm.mem_iff.mp member, shares⟩
  fresh := fun handle member => counted.fresh handle (perm.mem_iff.mpr member)
  adopted := fun handle member => counted.adopted handle (perm.mem_iff.mpr member)
  released := by
    intro object
    simp only [counted.released, perm.mem_iff]
  once := counted.once

/-- A handle without an object changes nothing for the others. -/
theorem counted_null_cons {live : List SharedPtr} {memory : Memory} {handle : SharedPtr}
    (noObject : handle.object = none) (noRef : handle.mRef = none) :
    Counted (handle :: live) memory ↔ Counted live memory := by
  have notCounted : ∀ ref, (handle :: live).countP (sharesRef ref) =
      live.countP (sharesRef ref) := by
    intro ref
    simp [sharesRef, noRef]
  constructor
  · intro counted
    obtain ⟨noFault, sameObject, null, counts, owned, fresh, adopted, released, once⟩ := counted
    simp only [List.forall_mem_cons, List.exists_mem_cons_iff, notCounted, noObject, noRef,
      reduceCtorEq, false_or, ne_eq, not_false_eq_true, true_and, false_implies,
      implies_true] at *
    exact ⟨noFault, fun first member => (sameObject.2 first member).2, null, counts, owned, fresh,
      adopted, released, once⟩
  · intro counted
    have null := counted.null
    obtain ⟨noFault, sameObject, -, counts, owned, fresh, adopted, released, once⟩ := counted
    refine ⟨noFault, ?_, ?_, ?_, ?_, ?_, ?_, ?_, once⟩
    all_goals simp only [List.forall_mem_cons, List.exists_mem_cons_iff, notCounted, noObject,
      noRef, reduceCtorEq, false_or, ne_eq, not_false_eq_true, true_and, false_implies,
      implies_true]
    · refine ⟨fun other member => ?_, fun first member => ⟨null first member, ?_⟩⟩
      · simpa [eq_comm] using null other member
      · exact sameObject first member
    all_goals assumption

theorem Counted.ofRaw {live : List SharedPtr} {memory : Memory} (counted : Counted live memory)
    {ptr : Option Pointer} (unused : SharedPtrs.isFresh ptr memory = true) :
    Counted ((ofRaw ptr memory).1 :: live) (ofRaw ptr memory).2 := by
  cases ptr with
  | none => exact (counted_null_cons rfl rfl).mpr counted
  | some ptr =>
      have unused : ptr.object ∉ memory.adopted := by simpa [SharedPtrs.isFresh] using unused
      have otherRef : ∀ handle ∈ live, handle.mRef ≠ some memory.nextRef := by
        intro handle member same
        exact Nat.lt_irrefl _ (counted.fresh handle member _ same)
      have otherObject : ∀ handle ∈ live, handle.object ≠ some ptr.object := by
        intro handle member same
        exact unused (counted.adopted handle member _ same)
      have noneShares : live.countP (sharesRef memory.nextRef) = 0 := by
        rw [List.countP_eq_zero]
        intro handle member
        simpa [sharesRef] using otherRef handle member
      simp only [SharedPtr.ofRaw]
      constructor
      case noFault => exact counted.noFault
      case sameObject =>
        simp only [List.forall_mem_cons]
        refine ⟨⟨by simp, ?_⟩, ?_⟩
        · intro other member
          have differentObject := (otherObject other member).symm
          have differentRef := (otherRef other member).symm
          simpa [object, differentRef] using differentObject
        · intro first member
          refine ⟨?_, counted.sameObject first member⟩
          have differentObject := otherObject first member
          have differentRef := otherRef first member
          simpa [object, differentRef] using differentObject
      case null =>
        simp only [List.forall_mem_cons]
        exact ⟨by simp [object], counted.null⟩
      case counts =>
        simp only [List.forall_mem_cons, Memory.write]
        refine ⟨?_, ?_⟩
        · rintro ref ⟨⟩
          rw [List.countP_cons_of_pos (by simp [sharesRef]), noneShares]
          simp
        · intro handle member ref shares
          have older : ref ≠ memory.nextRef := by
            rintro rfl
            exact otherRef handle member shares
          rw [Function.update_of_ne older,
            List.countP_cons_of_neg (by simpa [sharesRef] using older.symm)]
          exact counted.counts handle member ref shares
      case owned =>
        intro ref stored
        by_cases newest : ref = memory.nextRef
        · exact ⟨_, List.mem_cons_self, by rw [newest]⟩
        · obtain ⟨handle, member, shares⟩ := counted.owned ref
            (by simpa [Memory.write, newest] using stored)
          exact ⟨handle, List.mem_cons_of_mem _ member, shares⟩
      case fresh =>
        simp only [List.forall_mem_cons]
        refine ⟨?_, ?_⟩
        · rintro ref ⟨⟩
          exact Nat.lt_succ_self _
        · intro handle member ref shares
          exact Nat.lt_succ_of_lt (counted.fresh handle member ref shares)
      case adopted =>
        simp only [List.forall_mem_cons]
        refine ⟨by simp [object], ?_⟩
        intro handle member owner refers
        exact List.mem_cons_of_mem _ (counted.adopted handle member owner refers)
      case released =>
        intro owner
        have notReleased : ptr.object ∉ memory.released := by
          intro deleted
          exact unused ((counted.released _).mp deleted).1
        simp only [Memory.write, List.forall_mem_cons, counted.released, object, Option.map_some,
          ne_eq, Option.some.injEq]
        rw [List.mem_cons]
        constructor
        · rintro ⟨known, nobody⟩
          exact ⟨.inr known, fun same => unused (same ▸ known), nobody⟩
        · rintro ⟨known, different, nobody⟩
          exact ⟨known.resolve_left (different ∘ Eq.symm), nobody⟩
      case once => exact counted.once

/-- One more handle of an object that a live handle refers to. -/
theorem Counted.share {live : List SharedPtr} {memory : Memory} (counted : Counted live memory)
    {source handle : SharedPtr} (member : source ∈ live)
    (sameObject : handle.object = source.object) (sameRef : handle.mRef = source.mRef) :
    Counted (handle :: live) (handle.increment memory) := by
  cases shared : source.mRef with
  | none =>
      have noObject := (counted.null source member).mpr shared
      rw [SharedPtr.increment, sameRef, shared]
      exact (counted_null_cons (sameObject.trans noObject) (sameRef.trans shared)).mpr counted
  | some ref =>
      have stored := counted.counts source member ref shared
      obtain ⟨owner, refers⟩ : ∃ owner, source.object = some owner := by
        rw [← Option.isSome_iff_exists, ← Option.ne_none_iff_isSome]
        intro noObject
        rw [(counted.null source member).mp noObject] at shared
        cases shared
      rw [refers] at sameObject
      rw [shared] at sameRef
      simp only [SharedPtr.increment, sameRef, stored]
      constructor
      case noFault => exact counted.noFault
      case sameObject =>
        simp only [List.forall_mem_cons, sameObject, sameRef, ← refers, ← shared, true_and]
        refine ⟨counted.sameObject source member, ?_⟩
        intro first firstLive
        exact ⟨counted.sameObject first firstLive source member,
          counted.sameObject first firstLive⟩
      case null =>
        simp only [List.forall_mem_cons, sameObject, sameRef, reduceCtorEq, true_and]
        exact counted.null
      case counts =>
        have all : ∀ other, other.mRef = source.mRef ∨ other ∈ live → ∀ key,
            other.mRef = some key →
            (memory.write ref (some ((live.countP (sharesRef ref) : Int) + 1))).counts key =
              some ((handle :: live).countP (sharesRef key) : Int) := by
          intro other place key shares
          by_cases same : key = ref
          · subst same
            rw [List.countP_cons_of_pos (by simp [sharesRef, sameRef])]
            simp [Memory.write]
          · have inLive : other ∈ live := by
              rcases place with sharesSource | inLive
              · rw [sharesSource, shared] at shares
                exact absurd (Option.some.inj shares).symm same
              · exact inLive
            rw [List.countP_cons_of_neg (by simpa [sharesRef, sameRef] using Ne.symm same)]
            simpa [Memory.write, same] using counted.counts other inLive key shares
        simp only [List.forall_mem_cons]
        exact ⟨all handle (.inl (sameRef.trans shared.symm)), fun other inLive =>
          all other (.inr inLive)⟩
      case owned =>
        intro key present
        by_cases same : key = ref
        · exact ⟨source, List.mem_cons_of_mem _ member, same ▸ shared⟩
        · obtain ⟨other, inLive, shares⟩ := counted.owned key
            (by simpa [Memory.write, same] using present)
          exact ⟨other, List.mem_cons_of_mem _ inLive, shares⟩
      case fresh =>
        simp only [List.forall_mem_cons, sameRef, ← shared]
        exact ⟨counted.fresh source member, counted.fresh⟩
      case adopted =>
        simp only [List.forall_mem_cons, sameObject, ← refers]
        exact ⟨counted.adopted source member, counted.adopted⟩
      case released =>
        intro key
        simp only [Memory.write, counted.released, List.forall_mem_cons, sameObject, ← refers]
        constructor
        · rintro ⟨known, nobody⟩
          exact ⟨known, nobody source member, nobody⟩
        · rintro ⟨known, -, nobody⟩
          exact ⟨known, nobody⟩
      case once => exact counted.once

theorem Counted.decrement_eq {live : List SharedPtr} {memory : Memory} {handle : SharedPtr}
    (counted : Counted (handle :: live) memory) {ref : Nat} (shared : handle.mRef = some ref) :
    handle.decrement memory =
      if live.countP (sharesRef ref) = 0 then
        handle.destroy ref (memory.write ref (some 0))
      else memory.write ref (some (live.countP (sharesRef ref) : Int)) := by
  have stored := counted.counts handle List.mem_cons_self ref shared
  rw [List.countP_cons_of_pos (by simp [sharesRef, shared])] at stored
  have remaining : ((live.countP (sharesRef ref) + 1 : Nat) : Int) - 1 =
      (live.countP (sharesRef ref) : Int) := by
    omega
  simp only [SharedPtr.decrement, shared, stored, remaining]
  by_cases last : live.countP (sharesRef ref) = 0
  · rw [if_pos last, if_pos (by omega), last]
    rfl
  · rw [if_neg last, if_neg (by omega)]

/-- What is left when one of several handles of an object goes. -/
theorem Counted.drop {live : List SharedPtr} {memory : Memory} {handle : SharedPtr}
    (counted : Counted (handle :: live) memory) {ref : Nat} (shared : handle.mRef = some ref)
    (others : live.countP (sharesRef ref) ≠ 0) :
    Counted live (memory.write ref (some (live.countP (sharesRef ref) : Int))) := by
  obtain ⟨other, otherLive, otherShares⟩ := List.countP_pos_iff.mp (Nat.pos_of_ne_zero others)
  have otherShares : other.mRef = some ref := by simpa [sharesRef] using otherShares
  have sameObject : handle.object = other.object :=
    (counted.sameObject handle List.mem_cons_self other
      (List.mem_cons_of_mem _ otherLive)).mpr (shared.trans otherShares.symm)
  constructor
  case noFault => exact counted.noFault
  case sameObject =>
    intro first firstLive second secondLive
    exact counted.sameObject first (List.mem_cons_of_mem _ firstLive) second
      (List.mem_cons_of_mem _ secondLive)
  case null => exact fun other inLive => counted.null other (List.mem_cons_of_mem _ inLive)
  case counts =>
    intro holder inLive key shares
    by_cases same : key = ref
    · subst same
      simp [Memory.write]
    · have stored := counted.counts holder (List.mem_cons_of_mem _ inLive) key shares
      rw [List.countP_cons_of_neg (by simpa [sharesRef, shared] using Ne.symm same)] at stored
      simpa [Memory.write, same] using stored
  case owned =>
    intro key present
    by_cases same : key = ref
    · exact ⟨other, otherLive, same ▸ otherShares⟩
    · obtain ⟨holder, member, shares⟩ := counted.owned key
        (by simpa [Memory.write, same] using present)
      rcases List.mem_cons.mp member with rfl | inLive
      · exact absurd (Option.some.inj (shares.symm.trans shared)) same
      · exact ⟨holder, inLive, shares⟩
  case fresh => exact fun other inLive => counted.fresh other (List.mem_cons_of_mem _ inLive)
  case adopted => exact fun other inLive => counted.adopted other (List.mem_cons_of_mem _ inLive)
  case released =>
    intro owner
    simp only [Memory.write, counted.released, List.forall_mem_cons]
    constructor
    · rintro ⟨known, -, nobody⟩
      exact ⟨known, nobody⟩
    · rintro ⟨known, nobody⟩
      exact ⟨known, sameObject ▸ nobody other otherLive, nobody⟩
  case once => exact counted.once

/-- What is left when the last handle of an object goes. -/
theorem Counted.release {live : List SharedPtr} {memory : Memory} {handle : SharedPtr}
    (counted : Counted (handle :: live) memory) {ref : Nat} (shared : handle.mRef = some ref)
    (last : live.countP (sharesRef ref) = 0) (count : Option Int) :
    Counted live (handle.destroy ref (memory.write ref count)) := by
  have otherRef : ∀ other ∈ live, other.mRef ≠ some ref := by
    intro other inLive
    simpa [sharesRef] using List.countP_eq_zero.mp last other inLive
  obtain ⟨ptr, pointsTo⟩ : ∃ ptr, handle.mPtr = some ptr := by
    rw [← Option.isSome_iff_exists, ← Option.ne_none_iff_isSome]
    intro noPtr
    have noRef := (counted.null handle List.mem_cons_self).mp (by simp [object, noPtr])
    rw [noRef] at shared
    cases shared
  have refers : handle.object = some ptr.object := by simp [object, pointsTo]
  have otherObject : ∀ other ∈ live, other.object ≠ some ptr.object := by
    intro other inLive same
    have sameRef := (counted.sameObject other (List.mem_cons_of_mem _ inLive) handle
      List.mem_cons_self).mp (same.trans refers.symm)
    exact otherRef other inLive (sameRef.trans shared)
  have known := counted.adopted handle List.mem_cons_self ptr.object refers
  have notReleased : ptr.object ∉ memory.released := by
    intro deleted
    exact ((counted.released _).mp deleted).2 handle List.mem_cons_self refers
  simp only [SharedPtr.destroy, Memory.delete, pointsTo]
  constructor
  case noFault => exact counted.noFault
  case sameObject =>
    intro first firstLive second secondLive
    exact counted.sameObject first (List.mem_cons_of_mem _ firstLive) second
      (List.mem_cons_of_mem _ secondLive)
  case null => exact fun other inLive => counted.null other (List.mem_cons_of_mem _ inLive)
  case counts =>
    intro holder inLive key shares
    have different : key ≠ ref := by
      rintro rfl
      exact otherRef holder inLive shares
    have stored := counted.counts holder (List.mem_cons_of_mem _ inLive) key shares
    rw [List.countP_cons_of_neg (by simpa [sharesRef, shared] using different.symm)] at stored
    simpa [Memory.write, different] using stored
  case owned =>
    intro key present
    have different : key ≠ ref := by
      rintro rfl
      exact present (by simp [Memory.write])
    obtain ⟨holder, member, shares⟩ := counted.owned key
      (by simpa [Memory.write, different] using present)
    rcases List.mem_cons.mp member with rfl | inLive
    · exact absurd (Option.some.inj (shares.symm.trans shared)) different
    · exact ⟨holder, inLive, shares⟩
  case fresh => exact fun other inLive => counted.fresh other (List.mem_cons_of_mem _ inLive)
  case adopted => exact fun other inLive => counted.adopted other (List.mem_cons_of_mem _ inLive)
  case released =>
    intro owner
    have before := counted.released owner
    simp only [List.forall_mem_cons, refers, ne_eq, Option.some.injEq] at before
    simp only [Memory.write, List.mem_cons, before]
    constructor
    · rintro (rfl | ⟨adopted, -, nobody⟩)
      · exact ⟨known, otherObject⟩
      · exact ⟨adopted, nobody⟩
    · rintro ⟨adopted, nobody⟩
      by_cases same : ptr.object = owner
      · exact .inl same.symm
      · exact .inr ⟨adopted, same, nobody⟩
  case once => exact List.nodup_cons.mpr ⟨notReleased, counted.once⟩

theorem Counted.decrement {live : List SharedPtr} {memory : Memory} {handle : SharedPtr}
    (counted : Counted (handle :: live) memory) :
    Counted live (handle.decrement memory) := by
  cases shared : handle.mRef with
  | none =>
      have noObject := (counted.null handle List.mem_cons_self).mpr shared
      rw [SharedPtr.decrement, shared]
      exact (counted_null_cons noObject shared).mp counted
  | some ref =>
      rw [counted.decrement_eq shared]
      split
      · rename_i last
        exact counted.release shared last _
      · rename_i others
        exact counted.drop shared others

theorem Counted.ofCopy {live : List SharedPtr} {memory : Memory}
    (counted : Counted live memory) {rhs : SharedPtr} (member : rhs ∈ live) :
    Counted ((rhs.ofCopy memory).1 :: live) (rhs.ofCopy memory).2 :=
  counted.share member rfl rfl

@[simp] theorem object_ofConvertingCopy (rhs : SharedPtr) (base : Nat) (memory : Memory) :
    (rhs.ofConvertingCopy base memory).1.object = rhs.object := by
  simp only [object, SharedPtr.ofConvertingCopy, Option.map_map]
  rfl

theorem Counted.ofConvertingCopy {live : List SharedPtr} {memory : Memory}
    (counted : Counted live memory) {rhs : SharedPtr} (member : rhs ∈ live) (base : Nat) :
    Counted ((rhs.ofConvertingCopy base memory).1 :: live)
      (rhs.ofConvertingCopy base memory).2 :=
  counted.share member (object_ofConvertingCopy rhs base memory) rfl

/-- The temporary is one more handle, and the old contents leave with it. -/
theorem Counted.takeOver {others : List SharedPtr} {handle : SharedPtr}
    {temporary : SharedPtr × Memory}
    (counted : Counted (temporary.1 :: handle :: others) temporary.2) :
    Counted ((handle.takeOver temporary).1 :: others) (handle.takeOver temporary).2 :=
  (counted.perm (List.Perm.swap _ _ _)).decrement

end SharedPtr

namespace SharedPtrs

open SharedPtr

theorem counted_put {handles : List SharedPtr} {target : Nat} {handle : SharedPtr}
    (found : handles[target]? = some handle) {result : SharedPtr × Memory}
    (counted : ∀ others, handles.Perm (handle :: others) →
      Counted (result.1 :: others) result.2) :
    Counted (put handles target result).handles (put handles target result).memory := by
  obtain ⟨bound, same⟩ := List.getElem?_eq_some_iff.mp found
  have split := List.getElem_cons_eraseIdx_perm bound
  rw [same] at split
  exact (counted _ split.symm).perm (List.set_perm_cons_eraseIdx bound result.1).symm

theorem counted_takeOver {handles : List SharedPtr} {target : Nat} {handle : SharedPtr}
    (found : handles[target]? = some handle) {temporary : SharedPtr × Memory}
    (counted : Counted (temporary.1 :: handles) temporary.2) :
    Counted (put handles target (handle.takeOver temporary)).handles
      (put handles target (handle.takeOver temporary)).memory := by
  refine counted_put found ?_
  intro others split
  exact Counted.takeOver (counted.perm (split.cons _))

/-- The assertion of the assignment holds: one object has one count. -/
theorem counted_assign {handles : List SharedPtr} {memory : Memory}
    (counted : Counted handles memory) {target source : Nat} {handle rhs : SharedPtr}
    (found : handles[target]? = some handle) (foundSource : handles[source]? = some rhs) :
    Counted (put handles target (handle.assign rhs memory)).handles
      (put handles target (handle.assign rhs memory)).memory := by
  have member := List.mem_of_getElem? found
  have sourceMember := List.mem_of_getElem? foundSource
  rw [SharedPtr.assign]
  split
  · rename_i samePtr
    have sameRef : handle.mRef = rhs.mRef :=
      (counted.sameObject handle member rhs sourceMember).mp (by simp [object, samePtr])
    refine counted_put found ?_
    intro others split
    simpa [Memory.assert, sameRef] using counted.perm split
  · exact counted_takeOver found (counted.ofCopy sourceMember)

theorem counted_step {state next : SharedPtrs} {operation : SharedPtrOperation}
    (counted : Counted state.handles state.memory) (taken : state.step operation = some next) :
    Counted next.handles next.memory := by
  obtain ⟨handles, memory⟩ := state
  cases operation with
  | constructDefault =>
      cases taken
      exact (counted_null_cons rfl rfl).mpr counted
  | construct ptr =>
      simp only [step, Option.ite_none_right_eq_some, Option.some.injEq] at taken
      obtain ⟨unused, rfl⟩ := taken
      exact counted.ofRaw unused
  | copy source =>
      simp only [step, Option.bind_eq_bind, Option.bind_eq_some_iff, Option.some.injEq] at taken
      obtain ⟨rhs, found, rfl⟩ := taken
      exact counted.ofCopy (List.mem_of_getElem? found)
  | convertingCopy source base =>
      simp only [step, Option.bind_eq_bind, Option.bind_eq_some_iff, Option.some.injEq] at taken
      obtain ⟨rhs, found, rfl⟩ := taken
      exact counted.ofConvertingCopy (List.mem_of_getElem? found) base
  | assign target source =>
      simp only [step, Option.bind_eq_bind, Option.bind_eq_some_iff, Option.some.injEq] at taken
      obtain ⟨handle, found, rhs, foundSource, rfl⟩ := taken
      exact counted_assign counted found foundSource
  | convertingAssign target source base =>
      simp only [step, Option.bind_eq_bind, Option.bind_eq_some_iff, Option.some.injEq] at taken
      obtain ⟨handle, found, rhs, foundSource, rfl⟩ := taken
      exact counted_takeOver found
        (counted.ofConvertingCopy (List.mem_of_getElem? foundSource) base)
  | reset target =>
      simp only [step, Option.bind_eq_bind, Option.bind_eq_some_iff, Option.some.injEq] at taken
      obtain ⟨handle, found, rfl⟩ := taken
      exact counted_takeOver found ((counted_null_cons rfl rfl).mpr counted)
  | resetTo target ptr =>
      simp only [step, Option.bind_eq_bind, Option.bind_eq_some_iff,
        Option.ite_none_right_eq_some, Option.some.injEq] at taken
      obtain ⟨handle, found, unused, rfl⟩ := taken
      exact counted_takeOver found (counted.ofRaw unused)
  | swap target other =>
      simp only [step, Option.bind_eq_bind, Option.bind_eq_some_iff, Option.some.injEq] at taken
      obtain ⟨handle, found, rhs, foundOther, rfl⟩ := taken
      obtain ⟨bound, rfl⟩ := List.getElem?_eq_some_iff.mp found
      obtain ⟨otherBound, rfl⟩ := List.getElem?_eq_some_iff.mp foundOther
      exact counted.perm (List.set_set_perm bound otherBound).symm
  | destruct target =>
      simp only [step, Option.bind_eq_bind, Option.bind_eq_some_iff, Option.some.injEq] at taken
      obtain ⟨handle, found, rfl⟩ := taken
      obtain ⟨bound, rfl⟩ := List.getElem?_eq_some_iff.mp found
      exact (counted.perm (List.getElem_cons_eraseIdx_perm bound).symm).decrement

/-- The number of live handles that refer to an object. -/
def owners (state : SharedPtrs) (object : Nat) : Nat :=
  state.handles.countP (refersTo object)

/-- Counts are right, and exactly the objects without an owner are deleted, each of
them once. -/
structure Law (state : SharedPtrs) : Prop where
  noFault : state.memory.fault = false
  counts : ∀ handle ∈ state.handles, ∀ object, handle.object = some object →
    ∃ ref, handle.mRef = some ref ∧
      state.memory.counts ref = some (state.owners object : Int)
  released : ∀ object, object ∈ state.memory.released ↔
    object ∈ state.memory.adopted ∧ state.owners object = 0
  once : state.memory.released.Nodup

theorem countP_sharesRef {live : List SharedPtr} {memory : Memory}
    (counted : Counted live memory) {handle : SharedPtr} (member : handle ∈ live)
    {object ref : Nat} (refers : handle.object = some object) (shares : handle.mRef = some ref) :
    live.countP (sharesRef ref) = live.countP (refersTo object) := by
  refine List.countP_congr ?_
  intro other inLive
  simp only [sharesRef, refersTo, decide_eq_true_eq, ← shares, ← refers]
  exact (counted.sameObject other inLive handle member).symm

theorem law_of_counted {state : SharedPtrs} (counted : Counted state.handles state.memory) :
    Law state where
  noFault := counted.noFault
  counts := by
    intro handle member object refers
    obtain ⟨ref, shares⟩ : ∃ ref, handle.mRef = some ref := by
      rw [← Option.isSome_iff_exists, ← Option.ne_none_iff_isSome]
      intro noRef
      rw [(counted.null handle member).mpr noRef] at refers
      cases refers
    refine ⟨ref, shares, ?_⟩
    rw [counted.counts handle member ref shares, countP_sharesRef counted member refers shares]
    rfl
  released := by
    intro object
    rw [counted.released, owners, List.countP_eq_zero]
    simp [refersTo]
  once := counted.once

theorem law_throughout (operations : List SharedPtrOperation) :
    Throughout step Law initial operations :=
  throughout_of_preserved (fun state => Counted state.handles state.memory)
    (fun _ counted => law_of_counted counted)
    (fun _ _ _ counted taken => counted_step counted taken) counted_initial

end SharedPtrs

/-- What the operations alone say: the object of each live handle, the youngest handle
first, and the objects of the raw pointers given away. -/
structure Referents where
  objects : List (Option Nat)
  given : List Nat
  deriving DecidableEq

namespace Referents

def initial : Referents := ⟨[], []⟩

def give (ptr : Option Pointer) (referents : Referents) : Option Referents :=
  match ptr with
  | none => some referents
  | some ptr =>
      if ptr.object ∈ referents.given then none
      else some { referents with given := ptr.object :: referents.given }

def add (object : Option Nat) (referents : Referents) : Referents :=
  { referents with objects := object :: referents.objects }

def put (target : Nat) (object : Option Nat) (referents : Referents) : Referents :=
  { referents with objects := referents.objects.set target object }

/-- The conversions keep the object. -/
def step (referents : Referents) : SharedPtrOperation → Option Referents
  | .constructDefault => some (referents.add none)
  | .construct ptr => (referents.give ptr).map (add (ptr.map Pointer.object))
  | .copy source | .convertingCopy source _ =>
      referents.objects[source]?.map fun object => referents.add object
  | .assign target source | .convertingAssign target source _ => do
      let _ ← referents.objects[target]?
      let object ← referents.objects[source]?
      some (referents.put target object)
  | .reset target => referents.objects[target]?.map fun _ => referents.put target none
  | .resetTo target ptr => do
      let _ ← referents.objects[target]?
      (referents.give ptr).map (put target (ptr.map Pointer.object))
  | .swap target other => do
      let first ← referents.objects[target]?
      let second ← referents.objects[other]?
      some ((referents.put target second).put other first)
  | .destruct target => referents.objects[target]?.map fun _ =>
      { referents with objects := referents.objects.eraseIdx target }

end Referents

namespace SharedPtrs

open SharedPtr

def referents (state : SharedPtrs) : Referents :=
  ⟨state.handles.map SharedPtr.object, state.memory.adopted⟩

@[simp] theorem adopted_increment (handle : SharedPtr) (memory : Memory) :
    (handle.increment memory).adopted = memory.adopted := by
  rw [increment]
  split
  · rfl
  · split <;> rfl

@[simp] theorem adopted_delete (ptr : Option Pointer) (memory : Memory) :
    (memory.delete ptr).adopted = memory.adopted := by
  cases ptr <;> rfl

@[simp] theorem adopted_decrement (handle : SharedPtr) (memory : Memory) :
    (handle.decrement memory).adopted = memory.adopted := by
  rw [decrement]
  split
  · rfl
  · split
    · rfl
    · simp only [destroy, Memory.write]
      split
      · exact adopted_delete _ _
      · rfl

@[simp] theorem adopted_assert (condition : Bool) (memory : Memory) :
    (memory.assert condition).adopted = memory.adopted := by
  cases condition <;> rfl

theorem give_adopted (ptr : Option Pointer) (handles : List SharedPtr) (memory : Memory) :
    (referents ⟨handles, memory⟩).give ptr =
      if isFresh ptr memory then
        some ⟨handles.map SharedPtr.object, (ofRaw ptr memory).2.adopted⟩
      else none := by
  cases ptr with
  | none => rfl
  | some ptr =>
      by_cases given : ptr.object ∈ memory.adopted
      · simp [Referents.give, isFresh, referents, given]
      · simp [Referents.give, isFresh, referents, given, ofRaw, Memory.write]

@[simp] theorem object_ofRaw (ptr : Option Pointer) (memory : Memory) :
    (ofRaw ptr memory).1.object = ptr.map Pointer.object := by
  cases ptr <;> rfl

@[simp] theorem adopted_ofConvertingCopy (rhs : SharedPtr) (base : Nat) (memory : Memory) :
    (rhs.ofConvertingCopy base memory).2.adopted = memory.adopted :=
  adopted_increment _ _

/-- The assignment leaves a handle of the same pointer as it is. -/
theorem assign_refers (handle rhs : SharedPtr) (memory : Memory) :
    (handle.assign rhs memory).1.object = rhs.object ∧
      (handle.assign rhs memory).2.adopted = memory.adopted := by
  rw [SharedPtr.assign]
  split
  · rename_i samePtr
    exact ⟨by simp [object, samePtr], adopted_assert _ _⟩
  · exact ⟨rfl, by simp [takeOver, ofCopy]⟩

theorem referents_step (state : SharedPtrs) (operation : SharedPtrOperation) :
    (state.step operation).map referents = state.referents.step operation := by
  obtain ⟨handles, memory⟩ := state
  have lookup : ∀ index, (referents ⟨handles, memory⟩).objects[index]? =
      handles[index]?.map SharedPtr.object := fun index => List.getElem?_map
  cases operation with
  | constructDefault => rfl
  | construct ptr =>
      simp only [step, Referents.step, give_adopted]
      split
      · simp [SharedPtrs.add, Referents.add, referents]
      · rfl
  | copy source =>
      simp only [step, Referents.step, lookup]
      cases handles[source]? with
      | none => rfl
      | some rhs => simp [SharedPtrs.add, Referents.add, referents, ofCopy]
  | convertingCopy source base =>
      simp only [step, Referents.step, lookup]
      cases handles[source]? with
      | none => rfl
      | some rhs => simp [SharedPtrs.add, Referents.add, referents]
  | assign target source =>
      simp only [step, Referents.step, lookup]
      cases handles[target]? with
      | none => rfl
      | some handle =>
          cases handles[source]? with
          | none => rfl
          | some rhs =>
              obtain ⟨object, adopted⟩ := assign_refers handle rhs memory
              simp [SharedPtrs.put, List.map_set, Referents.put, referents, object, adopted]
  | convertingAssign target source base =>
      simp only [step, Referents.step, lookup]
      cases handles[target]? with
      | none => rfl
      | some handle =>
          cases handles[source]? with
          | none => rfl
          | some rhs =>
              simp [SharedPtrs.put, List.map_set, Referents.put, referents, takeOver,
                SharedPtr.convertingAssign]
  | reset target =>
      simp only [step, Referents.step, lookup]
      cases handles[target]? with
      | none => rfl
      | some handle =>
          have none : null.object = none := rfl
          simp [SharedPtrs.put, List.map_set, Referents.put, referents, takeOver,
            SharedPtr.reset, none]
  | resetTo target ptr =>
      simp only [step, Referents.step, lookup, give_adopted]
      cases handles[target]? with
      | none => rfl
      | some handle =>
          cases isFresh ptr memory with
          | false => rfl
          | true =>
              simp [SharedPtrs.put, List.map_set, Referents.put, referents, takeOver,
                SharedPtr.resetTo]
  | swap target other =>
      simp only [step, Referents.step, lookup]
      cases handles[target]? with
      | none => rfl
      | some handle =>
          cases handles[other]? with
          | none => rfl
          | some rhs => simp [Referents.put, referents, List.map_set]
  | destruct target =>
      simp only [step, Referents.step, lookup]
      cases handles[target]? with
      | none => rfl
      | some handle => simp [referents, List.eraseIdx_map]

/-- The handles refer to what the operations say, and the law holds in every state of
the run. -/
theorem counts_throughout (operations : List SharedPtrOperation) :
    (execute step initial operations).map referents =
        execute Referents.step .initial operations ∧
      Throughout step Law initial operations :=
  ⟨map_execute referents referents_step initial operations, law_throughout operations⟩

end SharedPtrs

end FiberApp.Bandwidth
