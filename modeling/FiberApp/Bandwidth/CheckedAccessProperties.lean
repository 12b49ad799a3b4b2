import FiberApp.Bandwidth.CircularBufferProperties

/-! The checked access of a circular buffer without its assertions. The index is taken
around the capacity before the vector checks it, so an index past the end is refused
only if it still lies past the end then. -/

set_option autoImplicit false

namespace FiberApp.Bandwidth

open Foundation

namespace CircularBuffer

variable {T : Type}

namespace History

/-- Where the oldest value lies: each push at capacity moves it on by one cell. -/
def oldestIndex (history : History T) : Nat :=
  if history.capacity = 0 then 0
  else (history.pushed.length - history.capacity) % history.capacity

theorem oldestIndex_of_room {history : History T}
    (room : history.pushed.length ≤ history.capacity) : history.oldestIndex = 0 := by
  rw [oldestIndex, Nat.sub_eq_zero_of_le room, Nat.zero_mod, ite_self]

/-- A push at capacity overwrites the oldest value, and the next cell holds the oldest. -/
theorem oldestIndex_concat {history : History T} (positive : 0 < history.capacity)
    (full : history.capacity ≤ history.pushed.length) (elem : T) :
    (history.after (.pushBack elem)).oldestIndex =
      if history.oldestIndex + 1 = history.capacity then 0 else history.oldestIndex + 1 := by
  have further : history.pushed.length + 1 - history.capacity =
      history.pushed.length - history.capacity + 1 := by omega
  simp only [oldestIndex, after, List.length_append, List.length_singleton,
    if_neg positive.ne', further]
  exact succ_mod_eq_ite positive _

end History

/-- The tail of the buffer is where the oldest of the values it stands for lies. -/
structure Tracks (buffer : CircularBuffer T) (history : History T) : Prop where
  represents : buffer.Represents history
  oldest : buffer.mTail = history.oldestIndex

theorem tracks_of_empty (capacity : Nat) :
    (⟨[], capacity, 0⟩ : CircularBuffer T).Tracks ⟨capacity, []⟩ :=
  ⟨represents_of_empty capacity, (History.oldestIndex_of_room (Nat.zero_le _)).symm⟩

theorem Tracks.pushBack {buffer next : CircularBuffer T} {history : History T}
    (tracks : buffer.Tracks history) {elem : T} (pushed : buffer.pushBack elem = some next) :
    next.mTail = (history.after (.pushBack elem)).oldestIndex := by
  have capacity := tracks.represents.capacity
  have length := tracks.represents.length_eq
  rw [History.retained, length_rtake] at length
  rw [CircularBuffer.pushBack] at pushed
  split at pushed
  case isTrue empty =>
    have same := tracks.oldest
    cases pushed
    rw [capacity] at empty
    rw [same, History.oldestIndex, History.oldestIndex, History.after]
    rw [if_pos empty, if_pos empty]
  case isFalse positive =>
    split at pushed
    case isTrue room =>
      cases pushed
      have before : history.oldestIndex = 0 := History.oldestIndex_of_room (by omega)
      have after : (history.after (.pushBack elem)).oldestIndex = 0 := by
        refine History.oldestIndex_of_room ?_
        simp only [History.after, List.length_append, List.length_singleton]
        omega
      rw [after, ← before]
      exact tracks.oldest
    case isFalse full =>
      split at pushed
      case isTrue inside =>
        cases pushed
        rw [History.oldestIndex_concat (by omega) (by omega), ← tracks.oldest, ← capacity]
      case isFalse outside => cases pushed

theorem Tracks.step {buffer : CircularBuffer T} {history : History T}
    (tracks : buffer.Tracks history) (operation : Operation T) :
    ∃ next, buffer.step operation = some next ∧ next.Tracks (history.after operation) := by
  cases operation with
  | pushBack elem =>
      obtain ⟨next, pushed, represents⟩ := tracks.represents.pushBack elem
      exact ⟨next, pushed, represents, tracks.pushBack pushed⟩
  | clear =>
      refine ⟨buffer.clear, rfl, ?_⟩
      rw [CircularBuffer.clear, tracks.represents.capacity]
      exact tracks_of_empty history.capacity
  | clearAndSetCapacity capacity => exact ⟨_, rfl, tracks_of_empty capacity⟩

theorem Tracks.execute {buffer : CircularBuffer T} {history : History T}
    (tracks : buffer.Tracks history) (operations : List (Operation T)) :
    ∃ final, execute CircularBuffer.step buffer operations = some final ∧
      final.Tracks (operations.foldl History.after history) := by
  exact execute_simulates Tracks (fun _ _ operation related => related.step operation) tracks
    operations

/-- The vector's check: it is made on the index the user's one is mapped to. -/
theorem atUnasserted_eq_none {buffer : CircularBuffer T} {sizeBits idx : Nat} :
    buffer.atUnasserted sizeBits idx = none ↔
      buffer.size ≤ buffer.convertIndexUnasserted sizeBits idx :=
  List.getElem?_eq_none_iff

/-- An index below the capacity is read where it should be, or at another held value. -/
theorem Tracks.atUnasserted_inside {buffer : CircularBuffer T} {history : History T}
    (tracks : buffer.Tracks history) {sizeBits idx : Nat} (bounded : idx < 2 ^ sizeBits)
    (inside : idx < buffer.mCapacity) :
    buffer.atUnasserted sizeBits idx = none ↔ buffer.size ≤ idx := by
  rw [atUnasserted_eq_none, convertIndexUnasserted]
  rcases tracks.represents.tail with start | ⟨tailInside, full⟩
  · rw [start, Nat.add_zero, Nat.mod_eq_of_lt bounded, if_neg (by omega)]
  · have sum : (idx + buffer.mTail) % 2 ^ sizeBits ≤ idx + buffer.mTail := Nat.mod_le _ _
    rw [size, full]
    constructor
    · intro refused
      split at refused <;> omega
    · intro past
      omega

/-- An index past the capacity lies past the held values once the capacity is taken off,
unless the sum with the tail wrapped. -/
theorem Tracks.atUnasserted_outside {buffer : CircularBuffer T} {history : History T}
    (tracks : buffer.Tracks history) {sizeBits idx : Nat} (bounded : idx < 2 ^ sizeBits)
    (outside : buffer.mCapacity ≤ idx) :
    buffer.atUnasserted sizeBits idx = none ↔
      buffer.mCapacity + buffer.size ≤ idx + buffer.mTail ∧
        idx + buffer.mTail < 2 ^ sizeBits := by
  rw [atUnasserted_eq_none, convertIndexUnasserted]
  by_cases wraps : idx + buffer.mTail < 2 ^ sizeBits
  · rw [Nat.mod_eq_of_lt wraps, if_pos (by omega)]
    omega
  · have below : buffer.mTail < buffer.mCapacity ∧ buffer.size = buffer.mCapacity := by
      rcases tracks.represents.tail with start | ⟨tailInside, full⟩
      · omega
      · exact ⟨by omega, full⟩
    rw [Nat.mod_eq_sub_mod (by omega), Nat.mod_eq_of_lt (by omega), if_neg (by omega)]
    omega

theorem Tracks.atUnasserted_iff {buffer : CircularBuffer T} {history : History T}
    (tracks : buffer.Tracks history) {sizeBits idx : Nat} (bounded : idx < 2 ^ sizeBits) :
    (buffer.atUnasserted sizeBits idx = none ↔ buffer.size ≤ idx) ↔
      idx < buffer.mCapacity ∨ buffer.mCapacity + buffer.size ≤ idx + buffer.mTail ∧
        idx + buffer.mTail < 2 ^ sizeBits := by
  by_cases inside : idx < buffer.mCapacity
  · simp only [tracks.atUnasserted_inside bounded inside, inside, true_or]
  · have short := tracks.represents.short
    have past : buffer.size ≤ idx := by
      rw [size]
      omega
    simp only [tracks.atUnasserted_outside bounded (Nat.not_lt.mp inside), inside, past, iff_true,
      false_or]

/-- A checked access that is not wrapped around reads what the asserting build reads. -/
theorem atUnasserted_eq_elementAt {buffer : CircularBuffer T} {sizeBits idx : Nat}
    (asserted : idx < buffer.mCapacity) (direct : idx + buffer.mTail < 2 ^ sizeBits) :
    buffer.atUnasserted sizeBits idx = buffer.elementAt idx := by
  simp only [atUnasserted, convertIndexUnasserted, elementAt, convertIndex, if_pos asserted,
    Nat.mod_eq_of_lt direct]

/-- In any run, an index is refused exactly from the size on if and only if it is below
the capacity, or past it by so much that the capacity cannot hide it. -/
theorem atUnasserted_throws_iff (sizeBits capacity : Nat) (operations : List (Operation T))
    (idx : Fin (2 ^ sizeBits)) :
    ∃ buffer history, execute step (create capacity) operations = some buffer ∧
      history = operations.foldl History.after ⟨capacity, []⟩ ∧
      ((buffer.atUnasserted sizeBits idx = none ↔ idx.val ≥ buffer.size) ↔
        idx.val < history.capacity ∨
        history.capacity + min history.pushed.length history.capacity ≤
            idx.val + history.oldestIndex ∧
          idx.val + history.oldestIndex < 2 ^ sizeBits) := by
  obtain ⟨buffer, executed, tracks⟩ := (tracks_of_empty (T := T) capacity).execute operations
  refine ⟨buffer, _, executed, rfl, ?_⟩
  have held := tracks.represents.length_eq
  rw [History.retained, length_rtake] at held
  rw [← held, ← tracks.represents.capacity, ← tracks.oldest]
  exact tracks.atUnasserted_iff idx.isLt

/-- Of a capacity of four, two values are held, and the access at index four returns the
first of them. -/
theorem not_atUnasserted_throws :
    ¬ ∀ (capacity : Nat) (operations : List (Operation Nat)) (idx : Fin (2 ^ 64)),
      ∀ buffer, execute step (create capacity) operations = some buffer →
        (buffer.atUnasserted 64 idx = none ↔ idx.val ≥ buffer.size) := by
  intro checked
  have refused := checked 4 [.pushBack 7, .pushBack 8] 4 ⟨[7, 8], 4, 0⟩ rfl
  exact absurd (refused.mpr (by decide)) (by decide)

end CircularBuffer

end FiberApp.Bandwidth
