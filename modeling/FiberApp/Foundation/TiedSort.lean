import Mathlib.Data.List.Sort

/-! Sorting by a comparison that can tie. What a sort may do with items that tie is left
open, so a fact about every sort is a fact about the items that come first. -/

set_option autoImplicit false

namespace FiberApp.Foundation

variable {α : Type}

/-- The comparison is a strict weak order: it is asymmetric, and ties are transitive. -/
structure StrictWeakOrder (ahead : α → α → Bool) : Prop where
  asymm : ∀ first second, ahead first second = true → ahead second first = false
  trans : ∀ first second third, ahead first second = false → ahead second third = false →
    ahead first third = false

/-- Any function that sorts by the comparison. -/
structure SortBy (ahead : α → α → Bool) where
  sort : List α → List α
  perm : ∀ items, (sort items).Perm items
  sorted : ∀ items, (sort items).Pairwise fun first second => ahead second first = false

/-- The item passes the test, and no other one that does goes ahead of it. -/
structure IsBest (ahead : α → α → Bool) (test : α → Bool) (items : List α) (best : α) : Prop where
  member : best ∈ items
  passes : test best = true
  notBehind : ∀ other ∈ items, test other = true → ahead other best = false

variable {ahead : α → α → Bool} {test : α → Bool} {items others : List α} {best : α}

theorem IsBest.of_perm (isBest : IsBest ahead test items best) (perm : items.Perm others) :
    IsBest ahead test others best where
  member := perm.mem_iff.mp isBest.member
  passes := isBest.passes
  notBehind other member := isBest.notBehind other (perm.mem_iff.mpr member)

/-- The first item of a sorted list that passes is a best one. -/
theorem isBest_of_find? (order : StrictWeakOrder ahead)
    (sorted : items.Pairwise fun first second => ahead second first = false)
    (found : items.find? test = some best) : IsBest ahead test items best := by
  obtain ⟨passes, before, after, rfl, fails⟩ := List.find?_eq_some_iff_append.mp found
  refine ⟨by simp, passes, fun other member alsoPasses => ?_⟩
  rcases List.mem_append.mp member with early | late
  · exact absurd alsoPasses (by simpa using fails other early)
  · rcases List.mem_cons.mp late with rfl | later
    · by_contra ahead
      have asymm := order.asymm other other (by simpa using ahead)
      exact ahead asymm
    · exact (List.pairwise_cons.mp (List.pairwise_append.mp sorted).2.1).1 other later

theorem SortBy.isBest (order : StrictWeakOrder ahead) (std : SortBy ahead)
    (found : (std.sort items).find? test = some best) : IsBest ahead test items best :=
  (isBest_of_find? order (std.sorted items) found).of_perm (std.perm items)

theorem SortBy.find?_eq_none (std : SortBy ahead) :
    (std.sort items).find? test = none ↔ ∀ item ∈ items, test item = false := by
  rw [List.find?_eq_none]
  constructor
  · intro fails item member
    simpa using fails item ((std.perm items).mem_iff.mpr member)
  · intro fails item member
    simpa using fails item ((std.perm items).mem_iff.mp member)

theorem StrictWeakOrder.irrefl (order : StrictWeakOrder ahead) (item : α) :
    ahead item item = false := by
  cases self : ahead item item with
  | false => rfl
  | true => rw [← self, order.asymm item item self]

/-- The last of the best items: what passes behind it is behind it in the order too. -/
theorem exists_last_best (order : StrictWeakOrder ahead)
    (passing : ∃ item ∈ items, test item = true) :
    ∃ earlier last later, items = earlier ++ last :: later ∧ IsBest ahead test items last ∧
      ∀ other ∈ later, test other = true → ahead last other = true := by
  induction items with
  | nil =>
      obtain ⟨item, absurdly, -⟩ := passing
      cases absurdly
  | cons first rest ih =>
      by_cases passingRest : ∃ item ∈ rest, test item = true
      · obtain ⟨earlier, last, later, rfl, isBest, behind⟩ := ih passingRest
        by_cases overtakes : test first = true ∧ ahead first last = true
        · have behindFirst : ∀ other ∈ earlier ++ last :: later, test other = true →
              ahead first other = true := by
            intro other member passes
            by_contra tied
            have notAhead := order.trans first other last (by simpa using tied)
              (isBest.notBehind other member passes)
            rw [overtakes.2] at notAhead
            cases notAhead
          refine ⟨[], first, earlier ++ last :: later, rfl, ⟨by simp, overtakes.1, ?_⟩,
            behindFirst⟩
          intro other member passes
          rcases List.mem_cons.mp member with rfl | inRest
          · exact order.irrefl other
          · exact order.asymm first other (behindFirst other inRest passes)
        · refine ⟨first :: earlier, last, later, rfl,
            ⟨List.mem_cons_of_mem _ isBest.member, isBest.passes, ?_⟩, behind⟩
          intro other member passes
          rcases List.mem_cons.mp member with rfl | inRest
          · by_contra ahead
            exact overtakes ⟨passes, by simpa using ahead⟩
          · exact isBest.notBehind other inRest passes
      · have only : ∀ other ∈ rest, ¬ test other = true := by
          intro other member passes
          exact passingRest ⟨other, member, passes⟩
        obtain ⟨item, member, passes⟩ := passing
        rcases List.mem_cons.mp member with rfl | inRest
        · refine ⟨[], item, rest, rfl, ⟨by simp, passes, ?_⟩,
            fun other member passes => absurd passes (only other member)⟩
          intro other member alsoPasses
          rcases List.mem_cons.mp member with rfl | inRest
          · exact order.irrefl other
          · exact absurd alsoPasses (only other inRest)
        · exact absurd passes (only item inRest)

section Preferring

variable [DecidableEq α]

/-- Ahead, or tied with the preferred item first. -/
def precedes (ahead : α → α → Bool) (item first second : α) : Bool :=
  ahead first second || (!ahead second first && (first = item || second ≠ item))

theorem ahead_eq_false_of_precedes (order : StrictWeakOrder ahead) {item first second : α}
    (precede : precedes ahead item first second = true) : ahead second first = false := by
  simp only [precedes, Bool.or_eq_true, Bool.and_eq_true, Bool.not_eq_true'] at precede
  rcases precede with ahead | ⟨notAhead, -⟩
  · exact order.asymm first second ahead
  · exact notAhead

theorem precedes_total (ahead : α → α → Bool) (item first second : α) :
    precedes ahead item first second = true ∨ precedes ahead item second first = true := by
  unfold precedes
  cases ahead first second <;> cases ahead second first <;> simp
  by_cases preferred : first = item
  · exact .inl (.inl preferred)
  · exact .inr (.inr preferred)

theorem precedes_trans (order : StrictWeakOrder ahead) {item first second third : α}
    (one : precedes ahead item first second = true)
    (other : precedes ahead item second third = true) :
    precedes ahead item first third = true := by
  have backOne := ahead_eq_false_of_precedes order one
  have backOther := ahead_eq_false_of_precedes order other
  have back := order.trans third second first backOther backOne
  cases direct : ahead first third with
  | true => simp [precedes, direct]
  | false =>
      have tiedOne := order.trans first third second direct backOther
      have tiedOther := order.trans second first third backOne direct
      simp only [precedes, tiedOne, backOne, Bool.not_false, Bool.true_and, Bool.false_or,
        Bool.or_eq_true, decide_eq_true_eq, tiedOther, backOther, direct, back] at one other ⊢
      rcases one with same | away
      · exact .inl same
      · rcases other with same | away'
        · exact absurd same away
        · exact .inr away'

theorem pairwise_precedes (order : StrictWeakOrder ahead) (item : α) (items : List α) :
    (items.insertionSort fun first second => precedes ahead item first second = true).Pairwise
      fun first second => precedes ahead item first second = true := by
  have : Std.Total fun first second => precedes ahead item first second = true :=
    ⟨precedes_total ahead item⟩
  have : IsTrans α fun first second => precedes ahead item first second = true :=
    ⟨fun _ _ _ one other => precedes_trans order one other⟩
  exact List.pairwise_insertionSort _ items

/-- The sort that puts one item before all it ties with. -/
def SortBy.preferring (order : StrictWeakOrder ahead) (item : α) : SortBy ahead where
  sort := List.insertionSort fun first second => precedes ahead item first second = true
  perm := List.perm_insertionSort _
  sorted items := (pairwise_precedes order item items).imp (ahead_eq_false_of_precedes order)

/-- A sort that prefers a best item finds it. -/
theorem SortBy.preferring_find? (order : StrictWeakOrder ahead)
    (isBest : IsBest ahead test items best) :
    ((SortBy.preferring order best).sort items).find? test = some best := by
  have sorted : ((SortBy.preferring order best).sort items).Pairwise fun first second =>
      precedes ahead best first second = true := pairwise_precedes order best items
  have inSorted := ((SortBy.preferring order best).perm items).mem_iff.mpr isBest.member
  cases found : ((SortBy.preferring order best).sort items).find? test with
  | none =>
      have fails := (SortBy.find?_eq_none _).mp found best isBest.member
      rw [isBest.passes] at fails
      cases fails
  | some other =>
      have otherBest := (SortBy.preferring order best).isBest order found
      obtain ⟨passes, before, after, split, fails⟩ := List.find?_eq_some_iff_append.mp found
      rw [split] at sorted inSorted
      rcases List.mem_append.mp inSorted with early | late
      · exact absurd isBest.passes (by simpa using fails best early)
      · rcases List.mem_cons.mp late with rfl | later
        · rfl
        · have precede :=
            (List.pairwise_cons.mp (List.pairwise_append.mp sorted).2.1).1 best later
          have tied := isBest.notBehind other otherBest.member passes
          have same : ahead best other = false ∧ other = best := by
            simpa [precedes, tied] using precede
          rw [same.2]

end Preferring

end FiberApp.Foundation
