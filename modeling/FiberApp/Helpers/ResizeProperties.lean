import FiberApp.Helpers.MovingAverageProperties

/-! When the maximum size of a moving average can be set. The check is on the buffer,
which keeps its cells once it was full, and not on the samples. -/

set_option autoImplicit false

namespace FiberApp.Helpers

open Foundation

namespace MovingAverage

variable {sizeMax : Nat} {T : Type}

/-- Setting the maximum size succeeds exactly without samples, and changes nothing when
it does not succeed. -/
def ResizesWhenEmpty (reserves : Nat → Bool) (maxSize : SizeType sizeMax)
    (average : MovingAverage sizeMax T) : Prop :=
  ((∃ next, average.setMaxSize reserves maxSize = some (next, true)) ↔ average.size = 0) ∧
  ∀ next, average.setMaxSize reserves maxSize = some (next, false) →
    next.circBuffer = average.circBuffer ∧ next.size = average.size ∧
      next.total = average.total ∧ next.maxSize = average.maxSize

theorem setMaxSize_unchanged {reserves : Nat → Bool} {maxSize : SizeType sizeMax}
    {average next : MovingAverage sizeMax T}
    (failed : average.setMaxSize reserves maxSize = some (next, false)) : next = average := by
  rw [setMaxSize] at failed
  split at failed
  · split at failed <;> cases failed
  · cases failed
    rfl

theorem setMaxSize_succeeds_iff {reserves : Nat → Bool} {maxSize : SizeType sizeMax}
    {average : MovingAverage sizeMax T} :
    (∃ next, average.setMaxSize reserves maxSize = some (next, true)) ↔
      average.circBuffer.length = 0 ∧ reserves maxSize = true := by
  rw [setMaxSize]
  by_cases empty : average.circBuffer.length = 0
  · by_cases room : reserves maxSize = true
    · simp [empty, room]
    · simp [empty, room]
  · simp [empty]

theorem resizesWhenEmpty_iff {reserves : Nat → Bool} {maxSize : SizeType sizeMax}
    {average : MovingAverage sizeMax T} :
    average.ResizesWhenEmpty reserves maxSize ↔
      (average.circBuffer.length = 0 ∧ reserves maxSize = true ↔ average.size = 0) := by
  rw [ResizesWhenEmpty, setMaxSize_succeeds_iff]
  refine ⟨fun resizes => resizes.1, fun succeeds => ⟨succeeds, fun next failed => ?_⟩⟩
  rw [setMaxSize_unchanged failed]
  exact ⟨rfl, rfl, rfl, rfl⟩

variable [AddCommGroup T]

/-- The samples, and whether the buffer was full since the last clear. -/
structure Usage (T : Type) where
  queue : List T
  filled : Bool

namespace Usage

def after (bound : Nat) (usage : Usage T) (operation : Operation T) : Usage T where
  queue := queueAfter bound usage.queue operation
  filled :=
    match operation with
    | .addSample sample =>
        usage.filled || decide ((pushBounded bound sample usage.queue).length = bound)
    | .removeSample => usage.filled
    | .clear => false

end Usage

structure Tracks (average : MovingAverage sizeMax T) (usage : Usage T) : Prop where
  represents : average.Represents usage.queue
  filled : usage.filled = true ↔ average.circBuffer.length = average.maxSize

theorem create_tracks {maxSize : SizeType sizeMax} (positive : 0 < maxSize.val) :
    (create maxSize : MovingAverage sizeMax T).Tracks ⟨[], false⟩ where
  represents := create_represents positive
  filled := by
    simp only [create, List.length_nil, Bool.false_eq_true, false_iff]
    omega

/-- A buffer that is not full is the queue of its samples. -/
theorem Represents.filling {average : MovingAverage sizeMax T} {queue : List T}
    (represents : average.Represents queue)
    (notFull : ¬ average.circBuffer.length = average.maxSize) :
    average.circBuffer.length < average.maxSize ∧ average.circBuffer = queue := by
  rcases represents.holds with ⟨filling, same, -⟩ | ⟨full, -⟩
  · exact ⟨filling, same⟩
  · exact absurd full notFull

theorem length_insertSample {average next : MovingAverage sizeMax T} {sample : T}
    (inserted : average.insertSample sample = some next) :
    next.circBuffer.length =
      if average.circBuffer.length = average.maxSize then average.circBuffer.length
      else average.circBuffer.length + 1 := by
  rw [insertSample] at inserted
  split at inserted
  case isTrue full =>
    rw [if_pos full]
    split at inserted
    · cases inserted
    · cases inserted
      exact List.length_set
  case isFalse room =>
    cases inserted
    rw [if_neg room, List.length_append, List.length_singleton]

theorem countSample_circBuffer {average next : MovingAverage sizeMax T}
    (counted : average.countSample = some next) : next.circBuffer = average.circBuffer := by
  rw [countSample] at counted
  split at counted
  · cases counted
  · cases counted
    rfl

theorem length_addSample {average next : MovingAverage sizeMax T} {divide : T → Nat → T}
    {sample mean : T} (added : average.addSample divide sample = some (next, mean)) :
    next.circBuffer.length =
      if average.circBuffer.length = average.maxSize then average.circBuffer.length
      else average.circBuffer.length + 1 := by
  simp only [MovingAverage.addSample, Option.bind_eq_bind, Option.bind_eq_some_iff,
    Option.some.injEq, Prod.mk.injEq] at added
  obtain ⟨middle, inserted, last, counted, rfl, -⟩ := added
  rw [countSample_circBuffer counted, length_insertSample inserted]

theorem length_removeSample {average next : MovingAverage sizeMax T} {sample : T}
    (removed : average.removeSample = some (next, sample)) :
    next.circBuffer.length =
      if average.circBuffer.length = average.maxSize ∨ average.curSize = 0 then
        average.circBuffer.length
      else average.circBuffer.length - 1 := by
  rw [MovingAverage.removeSample] at removed
  split at removed
  case isTrue none_left =>
    cases removed
    rw [if_pos (.inr none_left)]
  case isFalse some_left =>
    simp only at removed
    split at removed
    · cases removed
    · cases removed
      by_cases full : average.circBuffer.length = average.maxSize
      · simp only [if_pos full, if_pos (Or.inl full), List.length_set]
      · have shrinks : ¬ (average.circBuffer.length = average.maxSize ∨ average.curSize = 0) :=
          fun either => either.elim full some_left
        simp only [if_neg full, if_neg shrinks, List.length_dropLast]

theorem Tracks.addSample {average : MovingAverage sizeMax T} {usage : Usage T}
    (tracks : average.Tracks usage) (divide : T → Nat → T) (sample : T) :
    ∃ next, average.step divide (.addSample sample) = some next ∧
      next.maxSize = average.maxSize ∧
      next.Tracks (usage.after average.maxSize (.addSample sample)) := by
  obtain ⟨next, mean, added, same, represents⟩ := tracks.represents.addSample divide sample
  refine ⟨next, by rw [MovingAverage.step, added, Option.map_some], same, represents, ?_⟩
  have length := length_addSample added
  rw [same, length, Usage.after]
  by_cases full : average.circBuffer.length = average.maxSize
  · rw [if_pos full]
    simp only [tracks.filled.mpr full, Bool.true_or, full]
  · have notFilled := Bool.eq_false_iff.mpr (mt tracks.filled.mp full)
    obtain ⟨filling, queue⟩ := tracks.represents.filling full
    rw [queue] at full
    simp only [notFilled, Bool.false_or, decide_eq_true_eq, queue, if_neg full, pushBounded,
      keptBounded, List.length_append, List.length_singleton]

theorem Tracks.removeSample {average : MovingAverage sizeMax T} {usage : Usage T}
    (tracks : average.Tracks usage) (divide : T → Nat → T) :
    ∃ next, average.step divide .removeSample = some next ∧ next.maxSize = average.maxSize ∧
      next.Tracks (usage.after average.maxSize .removeSample) := by
  obtain ⟨next, taken, same, represents⟩ := tracks.represents.step divide .removeSample
  refine ⟨next, taken, same, represents, ?_⟩
  obtain ⟨⟨_, sample⟩, removed, rfl⟩ := Option.map_eq_some_iff.mp taken
  have length := length_removeSample removed
  rw [same, length, Usage.after, tracks.filled]
  by_cases full : average.circBuffer.length = average.maxSize
  · rw [if_pos (.inl full)]
  · have filling := (tracks.represents.filling full).1
    split <;> omega

theorem Tracks.step {average : MovingAverage sizeMax T} {usage : Usage T}
    (tracks : average.Tracks usage) (divide : T → Nat → T) (operation : Operation T) :
    ∃ next, average.step divide operation = some next ∧ next.maxSize = average.maxSize ∧
      next.Tracks (usage.after average.maxSize operation) := by
  cases operation with
  | addSample sample => exact tracks.addSample divide sample
  | removeSample => exact tracks.removeSample divide
  | clear =>
      have positive := tracks.represents.positive
      refine ⟨average.clear, rfl, rfl, tracks.represents.clear, ?_⟩
      simp only [Usage.after, Bool.false_eq_true, MovingAverage.clear, List.length_nil, false_iff]
      omega

/-- The check succeeds if and only if the buffer was not full and there is no sample. -/
theorem Tracks.buffer_empty_iff {average : MovingAverage sizeMax T} {usage : Usage T}
    (tracks : average.Tracks usage) :
    average.circBuffer.length = 0 ↔ usage.filled = false ∧ usage.queue = [] := by
  have positive := tracks.represents.positive
  by_cases full : average.circBuffer.length = average.maxSize
  · rw [tracks.filled.mpr full]
    constructor
    · intro empty
      omega
    · intro both
      exact Bool.noConfusion both.1
  · rw [Bool.eq_false_iff.mpr (mt tracks.filled.mp full), (tracks.represents.filling full).2,
      List.length_eq_zero_iff]
    exact ⟨fun empty => ⟨rfl, empty⟩, fun both => both.2⟩

theorem Tracks.resizesWhenEmpty_iff {average : MovingAverage sizeMax T} {usage : Usage T}
    (tracks : average.Tracks usage) (reserves : Nat → Bool) (maxSize : SizeType sizeMax) :
    average.ResizesWhenEmpty reserves maxSize ↔
      (usage.queue = [] → usage.filled = false ∧ reserves maxSize = true) := by
  have size : average.size = 0 ↔ usage.queue = [] := by
    rw [MovingAverage.size, tracks.represents.curSize, List.length_eq_zero_iff]
  rw [MovingAverage.resizesWhenEmpty_iff, tracks.buffer_empty_iff, size]
  constructor
  · intro succeeds empty
    obtain ⟨⟨notFilled, -⟩, room⟩ := succeeds.mpr empty
    exact ⟨notFilled, room⟩
  · intro condition
    constructor
    · intro both
      exact both.1.2
    · intro empty
      exact ⟨⟨(condition empty).1, empty⟩, (condition empty).2⟩

theorem execute_tracks {maxSize : SizeType sizeMax} (positive : 0 < maxSize.val)
    (divide : T → Nat → T) (operations : List (Operation T)) :
    ∃ average, execute (step divide) (create maxSize) operations = some average ∧
      average.maxSize = maxSize ∧
      average.Tracks (operations.foldl (Usage.after maxSize) ⟨[], false⟩) := by
  have initial : (create maxSize : MovingAverage sizeMax T).maxSize = maxSize ∧
      (create maxSize : MovingAverage sizeMax T).Tracks ⟨[], false⟩ :=
    ⟨rfl, create_tracks positive⟩
  refine execute_simulates
    (fun (average : MovingAverage sizeMax T) usage =>
      average.maxSize = maxSize ∧ average.Tracks usage) ?_ initial operations
  intro average usage operation related
  obtain ⟨rfl, tracks⟩ := related
  exact tracks.step divide operation

/-- Without a maximum size the vector has no cell to add a sample to. -/
theorem step_of_zero {maxSize : SizeType sizeMax} (zero : maxSize.val = 0)
    (divide : T → Nat → T) (operation : Operation T) :
    ((∃ sample, operation = .addSample sample) ∧
        (create maxSize).step divide operation = none) ∨
      (∀ sample, operation ≠ .addSample sample) ∧
        (create maxSize).step divide operation = some (create maxSize) ∧
        (⟨[], false⟩ : Usage T).after maxSize operation = ⟨[], false⟩ := by
  cases operation with
  | addSample sample =>
      refine .inl ⟨⟨sample, rfl⟩, ?_⟩
      simp [MovingAverage.step, MovingAverage.addSample, insertSample, create, zero]
  | removeSample => exact .inr ⟨fun _ same => (by cases same), rfl, rfl⟩
  | clear => exact .inr ⟨fun _ same => (by cases same), rfl, rfl⟩

theorem execute_of_zero {maxSize : SizeType sizeMax} (zero : maxSize.val = 0)
    (divide : T → Nat → T) (operations : List (Operation T)) :
    (execute (step divide) (create maxSize) operations = none ∧
        ∃ sample, .addSample sample ∈ operations) ∨
      execute (step divide) (create maxSize) operations = some (create maxSize) ∧
        (∀ sample, .addSample sample ∉ operations) ∧
        operations.foldl (Usage.after maxSize) ⟨[], false⟩ = (⟨[], false⟩ : Usage T) := by
  induction operations with
  | nil => exact .inr ⟨rfl, fun _ => List.not_mem_nil, rfl⟩
  | cons operation rest ih =>
      rcases step_of_zero zero divide operation with ⟨⟨sample, rfl⟩, stuck⟩ |
        ⟨others, stays, unused⟩
      · refine .inl ⟨?_, sample, List.mem_cons_self⟩
        rw [execute, stuck]
      · rw [execute, stays, List.foldl_cons, unused]
        rcases ih with ⟨stuck, sample, member⟩ | ⟨executed, added, unusedRest⟩
        · exact .inl ⟨stuck, sample, List.mem_cons_of_mem operation member⟩
        · refine .inr ⟨executed, fun sample member => ?_, unusedRest⟩
          rcases List.mem_cons.mp member with same | later
          · exact others sample same.symm
          · exact added sample later

/-- Whatever was added and removed before, setting the maximum size succeeds exactly
without samples if and only if no sample was added to a buffer of size zero, and a buffer
without samples was not full since the last clear and can be given room. -/
theorem resizes_iff (reserves : Nat → Bool) (divide : T → Nat → T)
    (maxSize resized : SizeType sizeMax) (operations : List (Operation T)) :
    (∃ average, execute (step divide) (create maxSize) operations = some average ∧
        average.ResizesWhenEmpty reserves resized) ↔
      (0 < maxSize.val ∨ ∀ sample, .addSample sample ∉ operations) ∧
        ((operations.foldl (Usage.after maxSize) ⟨[], false⟩).queue = [] →
          (operations.foldl (Usage.after maxSize) ⟨[], false⟩).filled = false ∧
            reserves resized = true) := by
  rcases Nat.eq_zero_or_pos maxSize.val with zero | positive
  · rcases execute_of_zero zero divide operations with
      ⟨stuck, sample, member⟩ | ⟨executed, added, unused⟩
    · rw [stuck]
      constructor
      · intro run
        obtain ⟨average, impossible, -⟩ := run
        cases impossible
      · intro condition
        rcases condition.1 with positive | added
        · omega
        · exact absurd member (added sample)
    · rw [executed, unused]
      have room : (create maxSize : MovingAverage sizeMax T).ResizesWhenEmpty reserves resized ↔
          reserves resized = true := by
        rw [MovingAverage.resizesWhenEmpty_iff]
        simp [create, MovingAverage.size]
      constructor
      · intro run
        obtain ⟨average, same, resizes⟩ := run
        cases same
        exact ⟨.inr added, fun _ => ⟨rfl, room.mp resizes⟩⟩
      · intro condition
        exact ⟨_, rfl, room.mpr (condition.2 rfl).2⟩
  · obtain ⟨average, executed, -, tracks⟩ := execute_tracks positive divide operations
    rw [← tracks.resizesWhenEmpty_iff reserves resized, executed]
    constructor
    · intro run
      obtain ⟨other, same, resizes⟩ := run
      cases same
      exact ⟨.inl positive, resizes⟩
    · intro condition
      exact ⟨average, rfl, condition.2⟩

/-- One sample fills a buffer of size one, and its cell stays when it is removed. -/
theorem not_resizes :
    ¬ ∃ average, execute (step fun (total : Int) size => total / size)
        (create (⟨1, by decide⟩ : SizeType 9)) [.addSample (5 : Int), .removeSample] =
          some average ∧
      average.ResizesWhenEmpty (fun _ => true) ⟨2, by decide⟩ := by
  intro run
  obtain ⟨average, executed, resizes⟩ := run
  cases executed
  have succeeds := setMaxSize_succeeds_iff.mp (resizes.1.mpr (by decide))
  exact absurd succeeds.1 (by decide)

end MovingAverage

end FiberApp.Helpers
