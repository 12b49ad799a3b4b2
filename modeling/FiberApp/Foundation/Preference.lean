import Mathlib.Data.List.Basic

/-! One scan over candidates that keeps the best so far: a favoured candidate ends the
scan, and a preferred one is given up only for a preferred one. -/

set_option autoImplicit false

namespace FiberApp.Foundation

variable {α : Type} (favoured preferred : α → Bool)

/-- The first favoured candidate, else the last preferred one, else the last one. -/
def mostPreferred (candidates : List α) : Option α :=
  (candidates.find? favoured).or
    ((candidates.filter preferred).getLast?.or candidates.getLast?)

/-- The candidate held after the scan, from the one held before it. -/
def keepPreferred : Option α → List α → Option α
  | best, [] => best
  | best, candidate :: rest =>
      if best.any preferred && !preferred candidate then keepPreferred best rest
      else if favoured candidate then some candidate
      else keepPreferred (some candidate) rest

variable {favoured preferred}

theorem mostPreferred_cons_of_favoured {candidate : α} (rest : List α)
    (best : favoured candidate) :
    mostPreferred favoured preferred (candidate :: rest) = some candidate := by
  simp [mostPreferred, best]

theorem mostPreferred_drop {earlier candidate : α} (rest : List α)
    (plain : favoured earlier = false) (replaced : preferred earlier → preferred candidate) :
    mostPreferred favoured preferred (earlier :: candidate :: rest) =
      mostPreferred favoured preferred (candidate :: rest) := by
  by_cases kept : preferred earlier
  · simp [mostPreferred, plain, kept, replaced kept, List.getLast?_cons_cons]
  · simp [mostPreferred, plain, kept, List.getLast?_cons_cons]

theorem mostPreferred_keep {earlier candidate : α} (rest : List α)
    (plain : favoured candidate = false) (kept : preferred earlier)
    (other : preferred candidate = false) :
    mostPreferred favoured preferred (earlier :: candidate :: rest) =
      mostPreferred favoured preferred (earlier :: rest) := by
  have held : (earlier :: rest.filter preferred).getLast? ≠ none := by simp
  obtain ⟨last, found⟩ := Option.ne_none_iff_exists'.mp held
  simp [mostPreferred, List.find?_cons, plain, kept, other, found]

theorem keepPreferred_some {best : α} (candidates : List α)
    (favours : ∀ candidate, favoured candidate → preferred candidate)
    (plain : favoured best = false) :
    keepPreferred favoured preferred (some best) candidates =
      mostPreferred favoured preferred (best :: candidates) := by
  induction candidates generalizing best with
  | nil => cases kept : preferred best <;> simp [keepPreferred, mostPreferred, plain, kept]
  | cons candidate rest ih =>
      rw [keepPreferred]
      split
      case isTrue held =>
        simp only [Option.any_some, Bool.and_eq_true, Bool.not_eq_eq_eq_not, Bool.not_true] at held
        have notFavoured : favoured candidate = false := by
          by_contra best
          rw [favours candidate (by simpa using best)] at held
          exact absurd held.2 (by simp)
        rw [ih plain, mostPreferred_keep rest notFavoured held.1 held.2]
      case isFalse replaced =>
        have given : preferred best → preferred candidate := by
          intro kept
          simpa [kept] using replaced
        rw [mostPreferred_drop rest plain given]
        split
        case isTrue better => rw [mostPreferred_cons_of_favoured rest better]
        case isFalse notBetter => exact ih (by simpa using notBetter)

/-- The scan that starts with no candidate finds the most preferred one. -/
theorem keepPreferred_none (candidates : List α)
    (favours : ∀ candidate, favoured candidate → preferred candidate) :
    keepPreferred favoured preferred none candidates =
      mostPreferred favoured preferred candidates := by
  cases candidates with
  | nil => rfl
  | cons candidate rest =>
      rw [keepPreferred]
      simp only [Option.any_none, Bool.false_and, Bool.false_eq_true, ↓reduceIte]
      split
      case isTrue better => rw [mostPreferred_cons_of_favoured rest better]
      case isFalse notBetter => exact keepPreferred_some rest favours (by simpa using notBetter)

theorem mostPreferred_eq_none {candidates : List α} :
    mostPreferred favoured preferred candidates = none ↔ candidates = [] := by
  cases candidates with
  | nil => simp [mostPreferred]
  | cons candidate rest => simp [mostPreferred, List.getLast?_cons]

theorem mostPreferred_eq_getLast? {candidates : List α}
    (favours : ∀ candidate, favoured candidate → preferred candidate)
    (others : ∀ candidate ∈ candidates, preferred candidate = false) :
    mostPreferred favoured preferred candidates = candidates.getLast? := by
  have noneFavoured : candidates.find? favoured = none := by
    rw [List.find?_eq_none]
    intro candidate member best
    have good := favours candidate best
    rw [others candidate member] at good
    cases good
  have nonePreferred : candidates.filter preferred = [] := by
    rw [List.filter_eq_nil_iff]
    intro candidate member
    simp [others candidate member]
  simp [mostPreferred, noneFavoured, nonePreferred]

theorem mem_of_mostPreferred {candidates : List α} {best : α}
    (found : mostPreferred favoured preferred candidates = some best) : best ∈ candidates := by
  cases first : candidates.find? favoured with
  | some favourite =>
      simp only [mostPreferred, first, Option.some_or, Option.some.injEq] at found
      rw [← found]
      exact List.mem_of_find?_eq_some first
  | none =>
      cases last : (candidates.filter preferred).getLast? with
      | some final =>
          simp only [mostPreferred, first, last, Option.none_or, Option.some_or,
            Option.some.injEq] at found
          rw [← found]
          exact List.mem_of_mem_filter (List.mem_of_getLast? last)
      | none =>
          simp only [mostPreferred, first, last, Option.none_or] at found
          exact List.mem_of_getLast? found

/-- A candidate that is found though it is not preferred is the last of candidates of which
none is preferred. -/
theorem getLast?_of_mostPreferred {candidates : List α} {best : α}
    (favours : ∀ candidate, favoured candidate → preferred candidate)
    (found : mostPreferred favoured preferred candidates = some best)
    (other : preferred best = false) :
    (∀ candidate ∈ candidates, preferred candidate = false) ∧
      candidates.getLast? = some best := by
  have others : ∀ candidate ∈ candidates, preferred candidate = false := by
    by_contra some
    push Not at some
    obtain ⟨kept, member, good⟩ := some
    have held : kept ∈ candidates.filter preferred :=
      List.mem_filter.mpr ⟨member, by simpa using good⟩
    obtain ⟨last, lastFound⟩ := Option.ne_none_iff_exists'.mp
      (mt List.getLast?_eq_none_iff.mp (List.ne_nil_of_mem held))
    have lastPreferred := (List.mem_filter.mp (List.mem_of_getLast? lastFound)).2
    cases first : candidates.find? favoured with
    | some favourite =>
        simp only [mostPreferred, first, Option.some_or, Option.some.injEq] at found
        have preferredBest := favours _ (List.find?_some first)
        rw [found, other] at preferredBest
        cases preferredBest
    | none =>
        simp only [mostPreferred, first, lastFound, Option.none_or, Option.some_or,
          Option.some.injEq] at found
        rw [found, other] at lastPreferred
        cases lastPreferred
  exact ⟨others, (mostPreferred_eq_getLast? favours others).symm.trans found⟩

/-- Leaving out candidates that are not preferred changes nothing while the one found stays. -/
theorem mostPreferred_filter {candidates : List α} {keep : α → Bool} {best : α}
    (favours : ∀ candidate, favoured candidate → preferred candidate)
    (spares : ∀ candidate, preferred candidate → keep candidate)
    (found : mostPreferred favoured preferred candidates = some best) (kept : keep best) :
    mostPreferred favoured preferred (candidates.filter keep) = some best := by
  cases good : preferred best with
  | false =>
      obtain ⟨others, last⟩ := getLast?_of_mostPreferred favours found good
      rw [mostPreferred_eq_getLast? favours
        (fun candidate member => others candidate (List.mem_of_mem_filter member))]
      obtain ⟨earlier, rfl⟩ := List.getLast?_eq_some_iff.mp last
      simp [kept]
  | true =>
      have sameFirst : (candidates.filter keep).find? favoured = candidates.find? favoured := by
        rw [List.find?_filter]
        congr 1
        funext candidate
        cases best : favoured candidate with
        | false => simp
        | true => simp [spares candidate (favours candidate best)]
      have samePreferred : (candidates.filter keep).filter preferred =
          candidates.filter preferred := by
        rw [List.filter_filter]
        apply List.filter_congr
        intro candidate _
        cases held : preferred candidate with
        | false => simp
        | true => simp [spares candidate held]
      rw [mostPreferred, sameFirst, samePreferred]
      cases first : candidates.find? favoured with
      | some favourite => simpa [mostPreferred, first] using found
      | none =>
          cases last : (candidates.filter preferred).getLast? with
          | some final => simpa [mostPreferred, first, last] using found
          | none =>
              have empty := List.getLast?_eq_none_iff.mp last
              have held : best ∈ candidates.filter preferred :=
                List.mem_filter.mpr ⟨mem_of_mostPreferred found, good⟩
              rw [empty] at held
              cases held

end FiberApp.Foundation
