import FiberApp.Foundation.Execution
import FiberApp.Helpers.MovingAverage
import Mathlib.Algebra.BigOperators.Group.List.Basic
import Mathlib.Algebra.Group.Int.Defs

/-! A moving average stands for the queue of its samples. Until the buffer is full it is
that queue; from then on the queue ends at the next index, behind zeros. -/

set_option autoImplicit false

namespace FiberApp.Helpers

open Foundation

namespace MovingAverage

variable {sizeMax : Nat} {T : Type}

theorem increment_of_lt {sizeMax size bound : Nat} (below : size < bound)
    (bounded : bound ≤ sizeMax) : increment sizeMax size = size + 1 := by
  rw [increment, if_neg (by omega)]

theorem decrement_of_pos {sizeMax size : Nat} (positive : 0 < size) :
    decrement sizeMax size = size - 1 := if_neg (by omega)

/-- One step back from the next index, where the code goes to the end of the buffer when
the index was zero, and below zero a `size_type` is its largest value. -/
def stepBack (sizeMax maxSize next : Nat) : Nat :=
  if decrement sizeMax next ≥ maxSize then maxSize - 1 else decrement sizeMax next

theorem stepBack_lt {maxSize : Nat} (positive : 0 < maxSize) (next : Nat) :
    stepBack sizeMax maxSize next < maxSize := by
  unfold stepBack
  split <;> omega

theorem rotate_stepBack_succ {buffer : List T} {next : Nat} (inside : next < buffer.length)
    (bounded : buffer.length ≤ sizeMax) :
    buffer.rotate (stepBack sizeMax buffer.length next + 1) = buffer.rotate next := by
  cases next with
  | zero =>
      have wraps : stepBack sizeMax buffer.length 0 + 1 = buffer.length := by
        rw [stepBack, decrement, if_pos rfl, if_pos bounded]
        omega
      rw [wraps, List.rotate_length, List.rotate_zero]
  | succ next =>
      have moved : decrement sizeMax (next + 1) = next := decrement_of_pos (Nat.succ_pos _)
      rw [stepBack, moved, if_neg (by omega)]

variable [AddCommGroup T]

/-- The queue after an operation, oldest sample first. -/
def queueAfter (bound : Nat) (queue : List T) : Operation T → List T
  | .addSample sample => pushBounded bound sample queue
  | .removeSample => queue.dropLast
  | .clear => []

/-- Where the samples of the queue are in the buffer. -/
def Holds (average : MovingAverage sizeMax T) (queue : List T) : Prop :=
  (average.circBuffer.length < average.maxSize ∧ average.circBuffer = queue ∧
      average.next = queue.length) ∨
    (average.circBuffer.length = average.maxSize ∧ average.next < average.maxSize ∧
      average.circBuffer.rotate average.next =
        List.replicate (average.maxSize - queue.length) 0 ++ queue)

structure Represents (average : MovingAverage sizeMax T) (queue : List T) : Prop where
  positive : 0 < average.maxSize.val
  short : queue.length ≤ average.maxSize
  curSize : average.curSize = queue.length
  total : average.total = queue.sum
  holds : average.Holds queue

theorem create_represents {maxSize : SizeType sizeMax} (positive : 0 < maxSize.val) :
    (create maxSize : MovingAverage sizeMax T).Represents [] :=
  ⟨positive, Nat.zero_le _, rfl, rfl, .inl ⟨positive, rfl, rfl⟩⟩

/-- A full buffer starts with the oldest sample, or with a zero while it has room. -/
theorem padded_eq_cons {bound : Nat} (positive : 0 < bound) {queue : List T}
    (short : queue.length ≤ bound) :
    ∃ oldest, List.replicate (bound - queue.length) 0 ++ queue =
        oldest :: (List.replicate (bound - ((keptBounded bound queue).length + 1)) 0 ++
          keptBounded bound queue) ∧
      queue.sum = oldest + (keptBounded bound queue).sum := by
  unfold keptBounded
  split
  case isTrue full =>
    cases queue with
    | nil => exact absurd full (by simp only [List.length_nil]; omega)
    | cons oldest rest =>
        simp only [List.length_cons] at full
        exact ⟨oldest, by simp [full], by simp⟩
  case isFalse room =>
    obtain ⟨gap, wide⟩ : ∃ gap, bound - queue.length = gap + 1 :=
      ⟨bound - queue.length - 1, by omega⟩
    refine ⟨0, ?_, (zero_add _).symm⟩
    rw [wide, List.replicate_succ, List.cons_append]
    congr 3
    omega

theorem Represents.addSample_filling {average : MovingAverage sizeMax T} {queue : List T}
    (represents : average.Represents queue)
    (filling : average.circBuffer.length < average.maxSize) (same : average.circBuffer = queue)
    (index : average.next = queue.length) (divide : T → Nat → T) (sample : T) :
    ∃ next mean, average.addSample divide sample = some (next, mean) ∧
      next.maxSize = average.maxSize ∧
      next.Represents (pushBounded average.maxSize sample queue) := by
  obtain ⟨positive, short, curSize, total, -⟩ := represents
  obtain ⟨circBuffer, next, sum, maxSize, size⟩ := average
  simp only at same index curSize total filling positive short
  subst same index curSize total
  have notFull : ¬ circBuffer.length = maxSize := by omega
  have moved : increment sizeMax circBuffer.length = circBuffer.length + 1 :=
    increment_of_lt filling maxSize.property
  have newest : (circBuffer ++ [sample])[circBuffer.length]? = some sample := by simp
  simp only [MovingAverage.addSample, insertSample, notFull, if_false, countSample, newest,
    moved, Option.bind_eq_bind, Option.bind_some]
  refine ⟨_, _, rfl, rfl, ?_⟩
  rw [pushBounded, keptBounded, if_neg notFull]
  refine ⟨positive, by simp only [List.length_append, List.length_singleton]; omega,
    by simp, by simp, ?_⟩
  by_cases full : circBuffer.length + 1 = maxSize
  · rw [if_pos full]
    refine .inr ⟨by simp [full], positive, ?_⟩
    simp [full]
  · rw [if_neg full]
    refine .inl ⟨?_, rfl, by simp⟩
    simp only [List.length_append, List.length_singleton]
    omega

theorem Represents.addSample_full {average : MovingAverage sizeMax T} {queue : List T}
    (represents : average.Represents queue)
    (full : average.circBuffer.length = average.maxSize) (inside : average.next < average.maxSize)
    (read : average.circBuffer.rotate average.next =
      List.replicate (average.maxSize - queue.length) 0 ++ queue)
    (divide : T → Nat → T) (sample : T) :
    ∃ next mean, average.addSample divide sample = some (next, mean) ∧
      next.maxSize = average.maxSize ∧
      next.Represents (pushBounded average.maxSize sample queue) := by
  obtain ⟨positive, short, curSize, total, -⟩ := represents
  obtain ⟨circBuffer, next, sum, maxSize, size⟩ := average
  simp only at curSize total full inside read positive short
  subst curSize total
  obtain ⟨oldest, padded, sums⟩ := padded_eq_cons positive short
  have shorter := length_keptBounded_lt positive short
  have bound : next < circBuffer.length := by omega
  have first : circBuffer[next]? = some oldest := by
    rw [← List.head?_rotate bound, read, padded, List.head?_cons]
  have newest : (circBuffer.set next sample)[next]? = some sample := by
    rw [List.getElem?_set_self bound]
  have moved : increment sizeMax next = next + 1 := increment_of_lt inside maxSize.property
  simp only [MovingAverage.addSample, insertSample, full, if_true, first, countSample, newest,
    moved, Option.bind_eq_bind, Option.bind_some]
  refine ⟨_, _, rfl, rfl, ?_⟩
  have after : (circBuffer.set next sample).rotate (next + 1) =
      List.replicate (maxSize - ((keptBounded maxSize queue).length + 1)) 0 ++
        (keptBounded maxSize queue ++ [sample]) := by
    rw [rotate_succ_set bound, read, padded, List.tail_cons, List.append_assoc]
  rw [pushBounded]
  refine ⟨positive, by simp only [List.length_append, List.length_singleton]; omega, ?_, ?_, ?_⟩
  · simp only [List.length_append, List.length_singleton, keptBounded]
    by_cases whole : queue.length = maxSize
    · simp only [whole, lt_irrefl, if_false, if_true, List.length_tail]
      omega
    · have room : queue.length < maxSize := by omega
      simp only [if_neg whole, if_pos room]
      exact increment_of_lt room maxSize.property
  · rw [sums]
    simp
  · refine .inr ⟨by simp only [List.length_set]; exact full, ?_, ?_⟩
    · simp only
      split <;> omega
    · simp only [List.length_append, List.length_singleton]
      split
      case isTrue wraps =>
        have whole := List.rotate_length (circBuffer.set next sample)
        rw [List.length_set, full, ← wraps] at whole
        rw [List.rotate_zero, ← after, whole]
      case isFalse inner => exact after

theorem Represents.addSample {average : MovingAverage sizeMax T} {queue : List T}
    (represents : average.Represents queue) (divide : T → Nat → T) (sample : T) :
    ∃ next mean, average.addSample divide sample = some (next, mean) ∧
      next.maxSize = average.maxSize ∧
      next.Represents (pushBounded average.maxSize sample queue) := by
  rcases represents.holds with ⟨filling, same, index⟩ | ⟨full, inside, read⟩
  · exact represents.addSample_filling filling same index divide sample
  · exact represents.addSample_full full inside read divide sample

theorem removeSample_empty {average : MovingAverage sizeMax T}
    (represents : average.Represents []) : average.removeSample = some (average, 0) := by
  have empty : average.curSize = 0 := represents.curSize
  rw [removeSample, if_pos empty]

theorem Represents.removeSample_filling {average : MovingAverage sizeMax T} {init : List T}
    {newest : T} (represents : average.Represents (init ++ [newest]))
    (filling : average.circBuffer.length < average.maxSize)
    (same : average.circBuffer = init ++ [newest])
    (index : average.next = (init ++ [newest]).length) :
    ∃ next, average.removeSample = some (next, newest) ∧ next.maxSize = average.maxSize ∧
      next.Represents init := by
  obtain ⟨positive, short, curSize, total, -⟩ := represents
  obtain ⟨circBuffer, next, sum, maxSize, size⟩ := average
  simp only [List.length_append, List.length_singleton]
    at same index curSize total filling positive short
  subst same index curSize total
  simp only [List.length_append, List.length_singleton] at filling
  have notFull : ¬ (init ++ [newest]).length = maxSize := by
    simp only [List.length_append, List.length_singleton]
    omega
  have last : (init ++ [newest])[init.length]? = some newest := by simp
  have inside : ¬ init.length ≥ maxSize := by omega
  have moved : decrement sizeMax (init.length + 1) = init.length :=
    decrement_of_pos (Nat.succ_pos _)
  simp only [removeSample, Nat.succ_ne_zero, if_false, moved, inside, last, notFull]
  refine ⟨_, rfl, rfl, positive, by simp only; omega, rfl, by simp, .inl ⟨?_, by simp, rfl⟩⟩
  simp only [List.dropLast_concat]
  omega

theorem Represents.removeSample_full {average : MovingAverage sizeMax T} {init : List T}
    {newest : T} (represents : average.Represents (init ++ [newest]))
    (full : average.circBuffer.length = average.maxSize) (inside : average.next < average.maxSize)
    (read : average.circBuffer.rotate average.next =
      List.replicate (average.maxSize - (init ++ [newest]).length) 0 ++ (init ++ [newest])) :
    ∃ next, average.removeSample = some (next, newest) ∧ next.maxSize = average.maxSize ∧
      next.Represents init := by
  obtain ⟨positive, short, curSize, total, -⟩ := represents
  obtain ⟨circBuffer, next, sum, maxSize, size⟩ := average
  simp only [List.length_append, List.length_singleton]
    at curSize total full inside read positive short
  subst curSize total
  have backInside : stepBack sizeMax maxSize next < circBuffer.length := by
    rw [full]
    exact stepBack_lt positive next
  have back : circBuffer.rotate (stepBack sizeMax maxSize next + 1) =
      List.replicate (maxSize - (init.length + 1)) 0 ++ (init ++ [newest]) := by
    rw [← read, ← full]
    exact rotate_stepBack_succ (by omega) (by rw [full]; exact maxSize.property)
  have last : circBuffer[stepBack sizeMax maxSize next]? = some newest := by
    rw [getElem?_eq_getLast?_rotate backInside, back]
    simp
  have removed : (⟨circBuffer, next, (init ++ [newest]).sum, maxSize, init.length + 1⟩ :
      MovingAverage sizeMax T).removeSample = some
        (⟨circBuffer.set (stepBack sizeMax maxSize next) 0, stepBack sizeMax maxSize next,
          (init ++ [newest]).sum - newest, maxSize, init.length⟩, newest) := by
    unfold stepBack at last ⊢
    simp only [removeSample, Nat.succ_ne_zero, if_false, last, full, if_true,
      decrement_of_pos (Nat.succ_pos init.length)]
    rfl
  refine ⟨_, removed, rfl, positive, by simp only; omega, rfl, by simp, .inr ⟨?_, ?_, ?_⟩⟩
  · simp only [List.length_set]
    exact full
  · exact stepBack_lt positive next
  · obtain ⟨gap, wide⟩ : ∃ gap, maxSize.val - init.length = gap + 1 :=
      ⟨maxSize.val - init.length - 1, by omega⟩
    have narrow : maxSize.val - (init.length + 1) = gap := by omega
    simp only [rotate_set backInside, back, wide, narrow, List.replicate_succ, List.cons_append]
    rw [← List.append_assoc, List.dropLast_concat]

theorem Represents.removeSample {average : MovingAverage sizeMax T} {init : List T} {newest : T}
    (represents : average.Represents (init ++ [newest])) :
    ∃ next, average.removeSample = some (next, newest) ∧ next.maxSize = average.maxSize ∧
      next.Represents init := by
  rcases represents.holds with ⟨filling, same, index⟩ | ⟨full, inside, read⟩
  · exact represents.removeSample_filling filling same index
  · exact represents.removeSample_full full inside read

theorem Represents.clear {average : MovingAverage sizeMax T} {queue : List T}
    (represents : average.Represents queue) : average.clear.Represents [] :=
  ⟨represents.positive, Nat.zero_le _, rfl, rfl, .inl ⟨represents.positive, rfl, rfl⟩⟩

theorem Represents.step {average : MovingAverage sizeMax T} {queue : List T}
    (represents : average.Represents queue) (divide : T → Nat → T) (operation : Operation T) :
    ∃ next, average.step divide operation = some next ∧ next.maxSize = average.maxSize ∧
      next.Represents (queueAfter average.maxSize queue operation) := by
  cases operation with
  | addSample sample =>
      obtain ⟨next, mean, added, same, after⟩ := represents.addSample divide sample
      exact ⟨next, by rw [MovingAverage.step, added, Option.map_some], same, after⟩
  | removeSample =>
      rcases List.eq_nil_or_concat' queue with rfl | ⟨init, newest, rfl⟩
      · exact ⟨average, by rw [MovingAverage.step, removeSample_empty represents, Option.map_some],
          rfl, represents⟩
      · obtain ⟨next, removed, same, after⟩ := represents.removeSample
        refine ⟨next, by rw [MovingAverage.step, removed, Option.map_some], same, ?_⟩
        rw [queueAfter, List.dropLast_concat]
        exact after
  | clear => exact ⟨average.clear, rfl, rfl, represents.clear⟩

theorem Represents.execute {average : MovingAverage sizeMax T} {queue : List T}
    (represents : average.Represents queue) (divide : T → Nat → T)
    (operations : List (Operation T)) :
    ∃ final, execute (MovingAverage.step divide) average operations = some final ∧
      final.Represents (operations.foldl (queueAfter average.maxSize) queue) := by
  have kept (state : MovingAverage sizeMax T) (held : List T) (operation : Operation T)
      (related : state.maxSize = average.maxSize ∧ state.Represents held) :
      ∃ next, state.step divide operation = some next ∧ next.maxSize = average.maxSize ∧
        next.Represents (queueAfter average.maxSize held operation) := by
    obtain ⟨next, taken, same, after⟩ := related.2.step divide operation
    rw [related.1] at same after
    exact ⟨next, taken, same, after⟩
  obtain ⟨final, executed, -, represented⟩ :=
    execute_simulates _ kept ⟨rfl, represents⟩ operations
  exact ⟨final, executed, represented⟩

/-- Every sequence of operations runs within the bounds of the buffer and leaves the size
and the total of the queue; a removal returns the newest sample, and changes nothing only
when there is none. -/
theorem execute_refines_queue {maxSize : SizeType sizeMax} (positive : 0 < maxSize.val)
    (divide : T → Nat → T) (operations : List (Operation T)) :
    ∃ average, execute (step divide) (create maxSize) operations = some average ∧
      average.size = (operations.foldl (queueAfter maxSize) []).length ∧
      average.total = (operations.foldl (queueAfter maxSize) []).sum ∧
      (operations.foldl (queueAfter maxSize) [] = [] →
        average.removeSample = some (average, 0)) ∧
      ∀ init newest, operations.foldl (queueAfter maxSize) [] = init ++ [newest] →
        ∃ next, average.removeSample = some (next, newest) ∧ next.size = init.length ∧
          next.total = init.sum := by
  obtain ⟨average, executed, represents⟩ :=
    (create_represents (T := T) positive).execute divide operations
  refine ⟨average, executed, represents.curSize, represents.total, fun empty => ?_,
    fun init newest split => ?_⟩
  · exact removeSample_empty (empty ▸ represents)
  · obtain ⟨next, removed, -, after⟩ := (split ▸ represents).removeSample
    exact ⟨next, removed, after.curSize, after.total⟩

theorem execute_refines_queue_of_three :
    ∃ average, execute (step fun (total : Int) size => total / size)
        (create (⟨2, by decide⟩ : SizeType 3)) [.addSample (5 : Int), .addSample 7, .addSample 1,
          .removeSample] = some average ∧
      average.size = 1 ∧ average.total = 7 := by
  obtain ⟨average, executed, size, total, -, -⟩ := execute_refines_queue
    (show 0 < (⟨2, by decide⟩ : SizeType 3).val by decide)
    (fun (total : Int) size => total / size)
    [.addSample (5 : Int), .addSample 7, .addSample 1, .removeSample]
  exact ⟨average, executed, size, total⟩

end MovingAverage

end FiberApp.Helpers
