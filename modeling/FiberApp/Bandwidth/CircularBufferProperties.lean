import FiberApp.Bandwidth.CircularBuffer
import FiberApp.Foundation.Execution
import FiberApp.Foundation.LastValues

/-! A circular buffer stands for the last values pushed since it was cleared, as many of
them as its capacity. -/

set_option autoImplicit false

namespace FiberApp.Bandwidth

open Foundation

namespace CircularBuffer

variable {T : Type}

/-- The pushes since the last clear, and the capacity set by it. -/
structure History (T : Type) where
  capacity : Nat
  pushed : List T

namespace History

def after (history : History T) : Operation T → History T
  | .pushBack elem => { history with pushed := history.pushed ++ [elem] }
  | .clear => { history with pushed := [] }
  | .clearAndSetCapacity capacity => ⟨capacity, []⟩

/-- The retained values, oldest first. -/
def retained (history : History T) : List T := history.pushed.rtake history.capacity

end History

structure Represents (buffer : CircularBuffer T) (history : History T) : Prop where
  capacity : buffer.mCapacity = history.capacity
  short : buffer.mBuffer.length ≤ buffer.mCapacity
  tail : buffer.mTail = 0 ∨
    buffer.mTail < buffer.mBuffer.length ∧ buffer.mBuffer.length = buffer.mCapacity
  read : buffer.mBuffer.rotate buffer.mTail = history.retained

theorem represents_of_empty (capacity : Nat) :
    (⟨[], capacity, 0⟩ : CircularBuffer T).Represents ⟨capacity, []⟩ :=
  ⟨rfl, Nat.zero_le _, .inl rfl, (List.rtake_nil capacity).symm⟩

theorem Represents.length_eq {buffer : CircularBuffer T} {history : History T}
    (represents : buffer.Represents history) :
    buffer.mBuffer.length = history.retained.length := by
  rw [← represents.read, List.length_rotate]

theorem Represents.pushBack {buffer : CircularBuffer T} {history : History T}
    (represents : buffer.Represents history) (elem : T) :
    ∃ next, buffer.pushBack elem = some next ∧
      next.Represents (history.after (.pushBack elem)) := by
  obtain ⟨mBuffer, mCapacity, mTail⟩ := buffer
  obtain ⟨capacity, pushed⟩ := history
  obtain ⟨same, short, tail, read⟩ := represents
  simp only [History.retained] at same short tail read
  subst same
  rcases Nat.eq_zero_or_pos mCapacity with rfl | positive
  · refine ⟨⟨mBuffer, 0, mTail⟩, by simp [CircularBuffer.pushBack], rfl, short, tail, ?_⟩
    simp only [read, History.after, History.retained, List.rtake_zero]
  have pushes := rtake_concat positive pushed elem
  rw [← read, pushBounded, keptBounded, List.length_rotate] at pushes
  simp only [CircularBuffer.pushBack, positive.ne', if_false]
  by_cases room : mBuffer.length < mCapacity
  · rw [if_pos room]
    have start : mTail = 0 := by omega
    subst start
    rw [if_neg (by omega), List.rotate_zero] at pushes
    refine ⟨_, rfl, rfl, ?_, .inl rfl, ?_⟩
    · simp only [List.length_append, List.length_singleton]
      omega
    · simp only [History.after, History.retained, pushes, List.rotate_zero]
  · have full : mBuffer.length = mCapacity := by omega
    have inside : mTail < mBuffer.length := by omega
    rw [if_neg room, if_pos inside]
    rw [if_pos full, ← rotate_succ_set inside] at pushes
    refine ⟨_, rfl, rfl, by simp only [List.length_set]; omega, ?_, ?_⟩
    · simp only [List.length_set]
      split
      · exact .inl rfl
      · exact .inr ⟨by omega, full⟩
    · simp only [History.after, History.retained, pushes]
      split
      case isTrue last =>
        have around := List.rotate_length (mBuffer.set mTail elem)
        rw [List.length_set, full, ← last] at around
        rw [List.rotate_zero, around]
      case isFalse inner => rfl

theorem Represents.step {buffer : CircularBuffer T} {history : History T}
    (represents : buffer.Represents history) (operation : Operation T) :
    ∃ next, buffer.step operation = some next ∧ next.Represents (history.after operation) := by
  cases operation with
  | pushBack elem => exact represents.pushBack elem
  | clear =>
      refine ⟨buffer.clear, rfl, ?_⟩
      rw [CircularBuffer.clear, represents.capacity]
      exact represents_of_empty history.capacity
  | clearAndSetCapacity capacity => exact ⟨_, rfl, represents_of_empty capacity⟩

theorem Represents.execute {buffer : CircularBuffer T} {history : History T}
    (represents : buffer.Represents history) (operations : List (Operation T)) :
    ∃ final, execute CircularBuffer.step buffer operations = some final ∧
      final.Represents (operations.foldl History.after history) :=
  execute_simulates Represents (fun _ _ operation related => related.step operation) represents
    operations

theorem Represents.elementAt {buffer : CircularBuffer T} {history : History T}
    (represents : buffer.Represents history) {idx : Nat} (inside : idx < buffer.size) :
    buffer.elementAt idx = history.retained[idx]? := by
  have short := represents.short
  have bound : idx < buffer.mBuffer.length := inside
  have below : idx < buffer.mCapacity := by omega
  rw [← represents.read, List.getElem?_rotate bound]
  simp only [CircularBuffer.elementAt, convertIndex, if_pos below]
  rcases represents.tail with start | ⟨tailInside, full⟩
  · rw [start, Nat.add_zero, if_neg (by omega), Nat.mod_eq_of_lt bound]
  · split
    case isTrue wraps =>
      rw [Nat.mod_eq_sub_mod (by omega), ← full, Nat.mod_eq_of_lt (by omega)]
    case isFalse direct => rw [Nat.mod_eq_of_lt (by omega)]

theorem Represents.operatorIndex {buffer : CircularBuffer T} {history : History T}
    (represents : buffer.Represents history) {idx : Nat} (inside : idx < buffer.size) :
    buffer.operatorIndex idx = history.retained[idx]? := by
  have short := represents.short
  have bound : idx < buffer.mBuffer.length := inside
  have positive : ¬ buffer.mCapacity = 0 := by omega
  rw [CircularBuffer.operatorIndex, if_neg positive, represents.elementAt inside]

theorem Represents.front {buffer : CircularBuffer T} {history : History T}
    (represents : buffer.Represents history) (holds : 0 < buffer.size) :
    buffer.front = history.retained.head? := by
  have short := represents.short
  have filled : 0 < buffer.mBuffer.length := holds
  have inside : buffer.mTail < buffer.mBuffer.length := by
    rcases represents.tail with start | ⟨tailInside, -⟩ <;> omega
  have positive : ¬ buffer.mCapacity = 0 := by omega
  rw [CircularBuffer.front, if_neg positive, ← represents.read, List.head?_rotate inside]

theorem Represents.back {buffer : CircularBuffer T} {history : History T}
    (represents : buffer.Represents history) (holds : 0 < buffer.size) :
    buffer.back = history.retained.getLast? := by
  have filled : ¬ buffer.mBuffer.length = 0 := Nat.pos_iff_ne_zero.mp holds
  have last : buffer.mBuffer.length - 1 < buffer.size := by
    rw [size]
    omega
  rw [CircularBuffer.back, if_neg filled, represents.operatorIndex last, represents.length_eq,
    List.getLast?_eq_getElem?]

/-- Every sequence of operations stays within the bounds of the vector, and what can be
read afterwards are the last values pushed since the last clear. -/
theorem execute_refines_last_values (capacity : Nat) (operations : List (Operation T)) :
    ∃ buffer history, execute step (create capacity) operations = some buffer ∧
      history = operations.foldl History.after ⟨capacity, []⟩ ∧
      buffer.size = min history.pushed.length history.capacity ∧
      history.retained.length = buffer.size ∧
      (∀ idx, idx < buffer.size → buffer.operatorIndex idx = history.retained[idx]? ∧
        buffer.elementAt idx = history.retained[idx]?) ∧
      (0 < buffer.size → buffer.front = history.retained.head? ∧
        buffer.back = history.retained.getLast?) := by
  obtain ⟨buffer, executed, represents⟩ :=
    (represents_of_empty (T := T) capacity).execute operations
  refine ⟨buffer, _, executed, rfl, ?_, represents.length_eq.symm, ?_, ?_⟩
  · rw [size, represents.length_eq, History.retained, length_rtake]
  · intro idx inside
    exact ⟨represents.operatorIndex inside, represents.elementAt inside⟩
  · intro holds
    exact ⟨represents.front holds, represents.back holds⟩

end CircularBuffer

end FiberApp.Bandwidth
