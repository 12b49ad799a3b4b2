import FiberApp.Bandwidth.RtpStatsUtil
import FiberApp.Foundation.Execution
import FiberApp.Foundation.LastValues
import FiberApp.Foundation.LeastSquares
import Mathlib.Algebra.Order.Ring.Rat

/-! The sums of the windowed correlation are the sums over the last pairs, and its slope
is their least-squares slope. A window of length zero has no cell to write to. -/

set_option autoImplicit false

namespace FiberApp.Bandwidth

open Foundation

variable {K : Type} [Field K]

namespace SummedArray

/-- The array keeps the last values of a sequence, and their sum. -/
structure Keeps (array : SummedArray K) (windowSize next count : Nat) (values : List K) :
    Prop where
  sized : array.entries.length = windowSize
  ring : Ring array.entries next count (values.rtake windowSize)
  sums : array.sum = (values.rtake windowSize).sum

theorem keeps_empty {array : SummedArray K} {windowSize : Nat} (positive : 0 < windowSize)
    (sized : array.entries.length = windowSize) (sums : array.sum = 0) :
    array.Keeps windowSize 0 0 [] := by
  refine ⟨sized, ?_, ?_⟩
  · rw [List.rtake_nil]
    exact .empty (by omega)
  · rw [List.rtake_nil, sums, List.sum_nil]

variable {array : SummedArray K} {windowSize next count : Nat} {values : List K}

theorem Keeps.full_iff (keeps : array.Keeps windowSize next count values) :
    ¬ count < windowSize ↔ (values.rtake windowSize).length = windowSize := by
  have short := keeps.ring.short
  have counted := keeps.ring.counted
  have sized := keeps.sized
  omega

theorem Keeps.push (keeps : array.Keeps windowSize next count values)
    (positive : 0 < windowSize) (value : K) :
    ∃ pushed, array.push (decide (¬ count < windowSize)) next value = some pushed ∧
      pushed.Keeps windowSize (advanceEntry windowSize next)
        (if count < windowSize then count + 1 else count) (values ++ [value]) := by
  obtain ⟨entries, sum⟩ := array
  have fullIff := keeps.full_iff
  obtain ⟨sized, ring, sums⟩ := keeps
  simp only at sized ring sums
  have inside := ring.inside
  have after := ring.push value
  rw [sized, ← rtake_concat positive] at after
  have kept := rtake_concat positive values value
  rw [pushBounded, keptBounded] at kept
  by_cases room : count < windowSize
  · rw [if_neg (fun full => fullIff.mpr full room)] at kept
    refine ⟨⟨entries.set next value, sum + value⟩, ?_, ?_, after, ?_⟩
    · simp [SummedArray.push, put, room, inside]
    · rw [List.length_set, sized]
    · rw [kept, List.sum_append, List.sum_singleton, sums]
  · have whole := fullIff.mp room
    rw [if_pos whole] at kept
    have oldest := ring.oldest (by have short := ring.short; omega)
    obtain ⟨popped, rest, window⟩ : ∃ popped rest, values.rtake windowSize = popped :: rest :=
      List.exists_cons_of_ne_nil (List.ne_nil_of_length_pos (by omega))
    rw [window, List.head?_cons] at oldest
    have popping : (⟨entries, sum⟩ : SummedArray K).pop next = some ⟨entries, sum - popped⟩ := by
      simp only [pop, oldest]
    refine ⟨⟨entries.set next value, sum - popped + value⟩, ?_, ?_, after, ?_⟩
    · simp [SummedArray.push, popping, put, room, inside]
    · rw [List.length_set, sized]
    · rw [kept, sums, window, List.tail_cons, List.sum_append, List.sum_singleton, List.sum_cons,
        add_sub_cancel_left]

theorem push_eq_none {array : SummedArray K} {full : Bool} {next : Nat}
    (outside : array.entries.length ≤ next) (value : K) :
    array.push full next value = none := by
  cases full with
  | true => simp [SummedArray.push, pop, List.getElem?_eq_none outside]
  | false => simp [SummedArray.push, put, Nat.not_lt.mpr outside]

end SummedArray

namespace WindowedCorrelationCoeffT

/-- Each array keeps its own function of the pushed pairs. -/
structure Represents (correlation : WindowedCorrelationCoeffT K) (windowSize : Nat)
    (points : List (K × K)) : Prop where
  window : correlation.mWindowSize = windowSize
  xs : correlation.mXs.Keeps windowSize correlation.mNextEntry correlation.mNumEntries
    (points.map fun point => point.1)
  ys : correlation.mYs.Keeps windowSize correlation.mNextEntry correlation.mNumEntries
    (points.map fun point => point.2)
  xys : correlation.mXYs.Keeps windowSize correlation.mNextEntry correlation.mNumEntries
    (points.map fun point => point.1 * point.2)
  xSquares : correlation.mXSquares.Keeps windowSize correlation.mNextEntry
    correlation.mNumEntries (points.map fun point => point.1 * point.1)
  ySquares : correlation.mYSquares.Keeps windowSize correlation.mNextEntry
    correlation.mNumEntries (points.map fun point => point.2 * point.2)

theorem create_represents {windowSize : Nat} (positive : 0 < windowSize)
    (arrays : Uninitialised K windowSize) : (create arrays).Represents windowSize [] where
  window := rfl
  xs := SummedArray.keeps_empty positive Vector.length_toList rfl
  ys := SummedArray.keeps_empty positive Vector.length_toList rfl
  xys := SummedArray.keeps_empty positive Vector.length_toList rfl
  xSquares := SummedArray.keeps_empty positive Vector.length_toList rfl
  ySquares := SummedArray.keeps_empty positive Vector.length_toList rfl

theorem Represents.push {correlation : WindowedCorrelationCoeffT K} {windowSize : Nat}
    {points : List (K × K)} (represents : correlation.Represents windowSize points)
    (positive : 0 < windowSize) (point : K × K) :
    ∃ next, correlation.push point = some next ∧
      next.Represents windowSize (points ++ [point]) := by
  obtain ⟨window, xs, ys, xys, xSquares, ySquares⟩ := represents
  obtain ⟨xs', pushedXs, keptXs⟩ := xs.push positive point.1
  obtain ⟨ys', pushedYs, keptYs⟩ := ys.push positive point.2
  obtain ⟨xys', pushedXys, keptXys⟩ := xys.push positive (point.1 * point.2)
  obtain ⟨xSquares', pushedXSquares, keptXSquares⟩ := xSquares.push positive (point.1 * point.1)
  obtain ⟨ySquares', pushedYSquares, keptYSquares⟩ := ySquares.push positive (point.2 * point.2)
  have pushed : correlation.push point = some
      { correlation with
        mXs := xs'
        mYs := ys'
        mXYs := xys'
        mXSquares := xSquares'
        mYSquares := ySquares'
        mNumEntries :=
          if correlation.mNumEntries < windowSize then correlation.mNumEntries + 1
          else correlation.mNumEntries
        mNextEntry := advanceEntry windowSize correlation.mNextEntry } := by
    simp only [WindowedCorrelationCoeffT.push, window, pushedXs, pushedYs, pushedXys,
      pushedXSquares, pushedYSquares, Option.bind_eq_bind, Option.bind_some]
  refine ⟨_, pushed, ?_⟩
  refine ⟨window, ?_, ?_, ?_, ?_, ?_⟩ <;> rw [List.map_append]
  · exact keptXs
  · exact keptYs
  · exact keptXys
  · exact keptXSquares
  · exact keptYSquares

theorem Represents.execute {correlation : WindowedCorrelationCoeffT K} {windowSize : Nat}
    {points : List (K × K)} (represents : correlation.Represents windowSize points)
    (positive : 0 < windowSize) (pushed : List (K × K)) :
    ∃ final, execute WindowedCorrelationCoeffT.push correlation pushed = some final ∧
      final.Represents windowSize (points ++ pushed) := by
  have run := execute_simulates (fun correlation points => Represents correlation windowSize points)
    (fun _ _ point represents => Represents.push represents positive point) represents pushed
  rw [foldl_concat] at run
  exact run

/-- The sums are the sums over these pairs. -/
structure SumsOver (correlation : WindowedCorrelationCoeffT K) (points : List (K × K)) :
    Prop where
  entries : correlation.mNumEntries = points.length
  xs : correlation.mXs.sum = LeastSquares.sumX points
  ys : correlation.mYs.sum = LeastSquares.sumY points
  xys : correlation.mXYs.sum = LeastSquares.sumXY points
  xSquares : correlation.mXSquares.sum = LeastSquares.sumXX points
  ySquares : correlation.mYSquares.sum = LeastSquares.sumYY points

theorem Represents.sumsOver {correlation : WindowedCorrelationCoeffT K} {windowSize : Nat}
    {points : List (K × K)} (represents : correlation.Represents windowSize points) :
    correlation.SumsOver (points.rtake windowSize) := by
  obtain ⟨-, xs, ys, xys, xSquares, ySquares⟩ := represents
  refine ⟨?_, ?_, ?_, ?_, ?_, ?_⟩
  · rw [xs.ring.counted, ← map_rtake, List.length_map]
  · rw [xs.sums, ← map_rtake, LeastSquares.sumX]
  · rw [ys.sums, ← map_rtake, LeastSquares.sumY]
  · rw [xys.sums, ← map_rtake, LeastSquares.sumXY]
  · rw [xSquares.sums, ← map_rtake, LeastSquares.sumXX]
  · rw [ySquares.sums, ← map_rtake, LeastSquares.sumYY]

theorem SumsOver.getSlope [DecidableEq K] {correlation : WindowedCorrelationCoeffT K}
    {points : List (K × K)} (sums : correlation.SumsOver points) :
    correlation.getSlope =
      if LeastSquares.spread points ≠ 0 then LeastSquares.slope points else 0 := by
  simp only [WindowedCorrelationCoeffT.getSlope, sums.entries, sums.xs, sums.ys, sums.xys,
    sums.xSquares]
  rfl

theorem push_of_no_cell (arrays : Uninitialised K 0) (point : K × K) :
    (create arrays).push point = none := by
  have outside : (create arrays).mXs.entries.length ≤ (create arrays).mNextEntry :=
    Vector.length_toList.le
  simp [WindowedCorrelationCoeffT.push, SummedArray.push_eq_none outside]

variable [LinearOrder K] [IsStrictOrderedRing K]

/-- After these pushes, all within the bounds of the arrays, the sums are those over the
last pairs and the slope is their least-squares slope where the denominator is not zero. -/
def RegressesLast {windowSize : Nat} (arrays : Uninitialised K windowSize)
    (points : List (K × K)) : Prop :=
  ∃ final, execute WindowedCorrelationCoeffT.push (create arrays) points = some final ∧
    final.SumsOver (points.rtake windowSize) ∧
    (LeastSquares.spread (points.rtake windowSize) ≠ 0 → ∀ slope,
      (∃ intercept,
        LeastSquares.IsLeastSquaresLine (points.rtake windowSize) intercept slope) ↔
      slope = final.getSlope)

theorem regresses_last_of_positive {windowSize : Nat} (positive : 0 < windowSize)
    (arrays : Uninitialised K windowSize) (points : List (K × K)) :
    RegressesLast arrays points := by
  obtain ⟨final, executed, represents⟩ :=
    (create_represents positive arrays).execute positive points
  rw [List.nil_append] at represents
  refine ⟨final, executed, represents.sumsOver, ?_⟩
  intro spreads slope
  rw [represents.sumsOver.getSlope, if_pos spreads]
  exact LeastSquares.exists_isLeastSquaresLine_iff spreads slope

/-- The first pair pushed to a window of length zero is written out of bounds; every other
window regresses the last pairs of every sequence. -/
theorem regresses_last_iff {windowSize : Nat} (arrays : Uninitialised K windowSize)
    (points : List (K × K)) :
    RegressesLast arrays points ↔ 0 < windowSize ∨ points = [] := by
  constructor
  · intro regresses
    obtain ⟨final, executed, -⟩ := regresses
    rcases Nat.eq_zero_or_pos windowSize with rfl | positive
    · cases points with
      | nil => exact .inr rfl
      | cons point rest =>
          obtain ⟨next, taken, -⟩ := execute_cons_eq_some.mp executed
          rw [push_of_no_cell] at taken
          cases taken
    · exact .inl positive
  · intro condition
    rcases condition with positive | rfl
    · exact regresses_last_of_positive positive arrays points
    · refine ⟨create arrays, rfl, ?_, ?_⟩
      · rw [List.rtake_nil]
        exact ⟨rfl, rfl, rfl, rfl, rfl, rfl⟩
      · intro spreads
        exact absurd (by simp [LeastSquares.spread, LeastSquares.sumX]) spreads

theorem regresses_last_of_three :
    RegressesLast (⟨#v[0, 0], #v[0, 0], #v[0, 0], #v[0, 0], #v[0, 0]⟩ : Uninitialised ℚ 2)
      [(1, 2), (2, 5), (4, 3)] :=
  (regresses_last_iff _ _).mpr (.inl (by decide))

theorem not_regresses_last :
    ¬ ∀ (windowSize : Nat) (arrays : Uninitialised ℚ windowSize) (points : List (ℚ × ℚ)),
      RegressesLast arrays points := by
  intro regresses
  obtain ⟨final, executed, -⟩ := regresses 0 ⟨#v[], #v[], #v[], #v[], #v[]⟩ [(1, 1)]
  obtain ⟨next, taken, -⟩ := execute_cons_eq_some.mp executed
  rw [push_of_no_cell] at taken
  cases taken

end WindowedCorrelationCoeffT

end FiberApp.Bandwidth
