import Mathlib.Algebra.Group.Nat.Defs
import FiberApp.Foundation.Generations
import FiberApp.Bandwidth.OverlappedHistogram

/-! The active histogram is the older of two generations of the inserted values,
so it holds the newest of them: all of them while they fit the swap interval,
then between one and two intervals of them. -/

set_option autoImplicit false

namespace FiberApp.Bandwidth

open Foundation

namespace BasicHistogram

variable {range : HistogramRange}

/-- The first of the values in an order, or without values the last of all. -/
def FirstOf (order : Int32 → Int32 → Prop) (last : Int32) (values : List Int32)
    (seen : Int32) : Prop :=
  (values = [] ∧ seen = last) ∨ (seen ∈ values ∧ ∀ value ∈ values, order seen value)

section

variable {order : Int32 → Int32 → Prop} {last seen next value : Int32} {values : List Int32}

theorem FirstOf.cons (refl : ∀ a, order a a) (trans : ∀ {a b c}, order a b → order b c → order a c)
    (antisymm : ∀ {a b}, order a b → order b a → a = b) (isLast : ∀ a, order a last)
    (first : FirstOf order last values seen)
    (updated : (next = value ∧ order value seen) ∨ (next = seen ∧ order seen value)) :
    FirstOf order last (value :: values) next := by
  refine .inr ?_
  rcases first with ⟨rfl, rfl⟩ | ⟨member, least⟩
  · have same : next = value := by
      rcases updated with ⟨same, -⟩ | ⟨same, before⟩
      · exact same
      · exact same.trans (antisymm before (isLast value))
    simpa [same] using refl value
  · rcases updated with ⟨rfl, before⟩ | ⟨rfl, before⟩
    · refine ⟨List.mem_cons_self, List.forall_mem_cons.mpr ⟨refl next, ?_⟩⟩
      exact fun other inside => trans before (least other inside)
    · exact ⟨List.mem_cons_of_mem value member, List.forall_mem_cons.mpr ⟨before, least⟩⟩

end

/-- The histogram holds these values and no others. Counts are machine integers, so
they are those of the values modulo `2^32`. -/
structure Holds (histogram : BasicHistogram range) (values : List Int32) : Prop where
  count : histogram.count = UInt32.ofNat values.length
  bins : ∀ idx : Fin range.numBins,
    histogram.bins[idx] = Int32.ofNat (values.countP (range.getIndex · = idx))
  minSeen : FirstOf (· ≤ ·) intMax values histogram.minSeen
  maxSeen : FirstOf (· ≥ ·) intMin values histogram.maxSeen

theorem le_intMax (value : Int32) : value ≤ intMax := by
  rw [Int32.le_iff_toInt_le]
  exact Int32.toInt_le value

theorem intMin_le (value : Int32) : intMin ≤ value := by
  rw [Int32.le_iff_toInt_le]
  exact Int32.le_toInt value

theorem holds_empty : Holds (empty : BasicHistogram range) [] where
  count := rfl
  bins := by
    intro idx
    simp [empty]
  minSeen := .inl ⟨rfl, rfl⟩
  maxSeen := .inl ⟨rfl, rfl⟩

theorem Holds.insert {histogram : BasicHistogram range} {values : List Int32}
    (holds : histogram.Holds values) (value : Int32) :
    (histogram.insert value).Holds (value :: values) where
  count := by
    simp only [BasicHistogram.insert, holds.count, List.length_cons, UInt32.ofNat_add]
    rfl
  bins := by
    intro idx
    simp only [BasicHistogram.insert, List.countP_cons, decide_eq_true_eq]
    by_cases same : range.getIndex value = idx
    · subst same
      rw [if_pos rfl, Int32.ofNat_add, ← holds.bins]
      simp
    · rw [if_neg same, Nat.add_zero, ← holds.bins]
      simp [Vector.getElem_set_ne, Fin.val_ne_of_ne same]
  minSeen := by
    refine holds.minSeen.cons Int32.le_refl Int32.le_trans Int32.le_antisymm le_intMax ?_
    simp only [BasicHistogram.insert]
    split
    · rename_i below
      exact .inl ⟨rfl, Int32.le_of_lt below⟩
    · rename_i notBelow
      exact .inr ⟨rfl, Int32.not_lt.mp notBelow⟩
  maxSeen := by
    refine holds.maxSeen.cons Int32.le_refl (fun first second => Int32.le_trans second first)
      (fun first second => Int32.le_antisymm second first) intMin_le ?_
    simp only [BasicHistogram.insert]
    split
    · rename_i above
      exact .inl ⟨rfl, Int32.le_of_lt above⟩
    · rename_i notAbove
      exact .inr ⟨rfl, Int32.not_lt.mp notAbove⟩

end BasicHistogram

namespace OverlappedHistogram

variable {range : HistogramRange}

def inactiveHistogram (histogram : OverlappedHistogram range) : BasicHistogram range :=
  match histogram.active with
  | .first => histogram.second
  | .second => histogram.first

inductive Call
  | insert (value : Int32)
  | reset
  deriving DecidableEq, Repr

/-- A histogram with the values inserted since its construction or last reset,
newest first. -/
structure Session (range : HistogramRange) where
  histogram : OverlappedHistogram range
  inserted : List Int32
  deriving DecidableEq

namespace Session

def start (swapInterval : UInt32) : Session range := ⟨.create swapInterval, []⟩

def call (session : Session range) : Call → Session range
  | .insert value => ⟨session.histogram.insert value, value :: session.inserted⟩
  | .reset => ⟨session.histogram.reset, []⟩

end Session

/-- The active histogram is the older generation and the other one the younger. -/
structure Represents (histogram : OverlappedHistogram range) (generations : Generations Int32) :
    Prop where
  active : histogram.activeHistogram.Holds generations.current
  inactive : histogram.inactiveHistogram.Holds generations.next
  age : histogram.swapCount.toNat = generations.age

theorem represents_empty {histogram : OverlappedHistogram range}
    (first : histogram.first = .empty) (second : histogram.second = .empty)
    (swapCount : histogram.swapCount = 0) : Represents histogram .empty where
  active := by
    rw [activeHistogram]
    split
    · exact first ▸ BasicHistogram.holds_empty
    · exact second ▸ BasicHistogram.holds_empty
  inactive := by
    rw [inactiveHistogram]
    split
    · exact second ▸ BasicHistogram.holds_empty
    · exact first ▸ BasicHistogram.holds_empty
  age := by
    rw [swapCount]
    rfl

theorem Represents.swap {histogram : OverlappedHistogram range}
    {generations : Generations Int32} (represents : Represents histogram generations) :
    Represents histogram.swap ⟨generations.next, [], 0⟩ := by
  obtain ⟨active, inactive, -⟩ := represents
  cases which : histogram.active with
  | first =>
      simp only [inactiveHistogram, which] at inactive
      simp only [OverlappedHistogram.swap, which]
      exact ⟨inactive, BasicHistogram.holds_empty, rfl⟩
  | second =>
      simp only [inactiveHistogram, which] at inactive
      simp only [OverlappedHistogram.swap, which]
      exact ⟨inactive, BasicHistogram.holds_empty, rfl⟩

/-- The part of `insert` after the test for a swap. -/
theorem Represents.count {histogram : OverlappedHistogram range}
    {generations : Generations Int32} (represents : Represents histogram generations)
    (value : Int32) (room : generations.age + 1 < 2 ^ 32) :
    Represents
      { histogram with
        first := histogram.first.insert value
        second := histogram.second.insert value
        swapCount := histogram.swapCount + 1 }
      ⟨value :: generations.current, value :: generations.next, generations.age + 1⟩ := by
  obtain ⟨active, inactive, age⟩ := represents
  have counted : (histogram.swapCount + 1).toNat = generations.age + 1 := by
    rw [UInt32.toNat_add, age]
    exact Nat.mod_eq_of_lt room
  cases which : histogram.active with
  | first =>
      simp only [activeHistogram, inactiveHistogram, which] at active inactive
      exact ⟨active.insert value, inactive.insert value, counted⟩
  | second =>
      simp only [activeHistogram, inactiveHistogram, which] at active inactive
      exact ⟨active.insert value, inactive.insert value, counted⟩

theorem Represents.insert {histogram : OverlappedHistogram range}
    {generations : Generations Int32} (represents : Represents histogram generations)
    (age_le : generations.age ≤ histogram.swapInterval.toNat) (value : Int32) :
    Represents (histogram.insert value)
      (generations.push histogram.swapInterval.toNat value) := by
  have bound := histogram.swapInterval.toNat_lt
  have sameTest : histogram.swapCount = histogram.swapInterval ↔
      generations.age = histogram.swapInterval.toNat := by
    rw [← represents.age, UInt32.toNat_inj]
  rw [OverlappedHistogram.insert, Generations.push]
  by_cases full : generations.age = histogram.swapInterval.toNat
  · rw [if_pos (sameTest.mpr full), if_pos full]
    exact represents.swap.count value (by simp)
  · rw [if_neg (full ∘ sameTest.mp), if_neg full]
    exact represents.count value (by omega)

@[simp] theorem swapInterval_insert (histogram : OverlappedHistogram range) (value : Int32) :
    (histogram.insert value).swapInterval = histogram.swapInterval := by
  simp only [OverlappedHistogram.insert, OverlappedHistogram.swap]
  split
  · split <;> rfl
  · rfl

namespace Session

/-- Some two generations of the inserted values are those the histogram holds. -/
def Tracks (swapInterval : UInt32) (session : Session range) : Prop :=
  session.histogram.swapInterval = swapInterval ∧
    ∃ generations, Generations.Windows swapInterval.toNat session.inserted generations ∧
      Represents session.histogram generations

theorem tracks_start (swapInterval : UInt32) :
    Tracks swapInterval (start swapInterval : Session range) :=
  ⟨rfl, .empty, Generations.windows_empty _, represents_empty rfl rfl rfl⟩

theorem Tracks.call {swapInterval : UInt32} (positive : 0 < swapInterval)
    {session : Session range} (tracks : Tracks swapInterval session) (next : Call) :
    Tracks swapInterval (session.call next) := by
  obtain ⟨rfl, generations, windows, represents⟩ := tracks
  cases next with
  | insert value =>
      have pushed := windows.push (UInt32.lt_iff_toNat_lt.mp positive) value
      have inserted := represents.insert windows.age_le value
      exact ⟨swapInterval_insert _ value, _, pushed, inserted⟩
  | reset =>
      exact ⟨rfl, .empty, Generations.windows_empty _, represents_empty rfl rfl rfl⟩

theorem tracks_calls {swapInterval : UInt32} (positive : 0 < swapInterval) (calls : List Call)
    {session : Session range} (tracks : Tracks swapInterval session) :
    Tracks swapInterval (calls.foldl Session.call session) := by
  induction calls generalizing session with
  | nil => exact tracks
  | cons next rest ih => exact ih (tracks.call positive next)

end Session

/-- After any calls the active histogram holds the newest `length` of the values
inserted since the construction or the last reset. -/
theorem active_holds_newest (swapInterval : UInt32) (positive : 0 < swapInterval)
    (calls : List Call) :
    let session : Session range := calls.foldl Session.call (.start swapInterval)
    ∃ length, length ≤ session.inserted.length ∧
      (session.inserted.length ≤ swapInterval.toNat → length = session.inserted.length) ∧
      (swapInterval.toNat < session.inserted.length →
        swapInterval.toNat < length ∧ length ≤ 2 * swapInterval.toNat) ∧
      session.histogram.activeHistogram.Holds (session.inserted.take length) := by
  intro session
  have tracks : Session.Tracks swapInterval session :=
    Session.tracks_calls positive calls (Session.tracks_start swapInterval)
  obtain ⟨-, generations, windows, represents⟩ := tracks
  obtain ⟨length, same, bounded, short, long⟩ := windows.current_eq_take
  exact ⟨length, bounded, short, long, same ▸ represents.active⟩

/-- Three inserts with an interval of one: the third swap leaves the last two. -/
theorem active_holds_newest_of_three :
    let session : Session ⟨0, 10, 5, by decide, by decide⟩ :=
      [.insert 1, .insert 7, .insert 3].foldl Session.call (.start 1)
    ∃ length, length ≤ session.inserted.length ∧
      (session.inserted.length ≤ 1 → length = session.inserted.length) ∧
      (1 < session.inserted.length → 1 < length ∧ length ≤ 2) ∧
      session.histogram.activeHistogram.Holds (session.inserted.take length) :=
  active_holds_newest 1 (by decide) [.insert 1, .insert 7, .insert 3]

end OverlappedHistogram

end FiberApp.Bandwidth
