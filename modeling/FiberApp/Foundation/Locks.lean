import Mathlib.Logic.Function.Basic

/-! Locks held by the parties of a system. Whether a party holds a lock is read off from what
it is doing, and the lock's owner agrees with that as parties take and leave it. -/

set_option autoImplicit false

namespace FiberApp.Foundation

variable {Party Activity : Type}

/-- The owner of a lock is the one party whose activity holds it. -/
def HeldBy (owner : Option Party) (holds : Activity → Prop) (activity : Party → Activity) : Prop :=
  ∀ party, owner = some party ↔ holds (activity party)

namespace HeldBy

variable {owner : Option Party} {holds : Activity → Prop} {activity : Party → Activity}

theorem unique (held : HeldBy owner holds activity) {first second : Party}
    (firstHolds : holds (activity first)) (secondHolds : holds (activity second)) :
    first = second :=
  Option.some.inj (((held first).mpr firstHolds).symm.trans ((held second).mpr secondHolds))

theorem free {initial : Activity} (holdsNothing : ¬ holds initial) :
    HeldBy (none : Option Party) holds fun _ => initial :=
  fun _ => ⟨nofun, fun holding => absurd holding holdsNothing⟩

variable [DecidableEq Party] {party : Party} {next : Activity}

/-- A step that neither takes the lock nor leaves it. -/
theorem same (held : HeldBy owner holds activity) (kept : holds next ↔ holds (activity party)) :
    HeldBy owner holds (Function.update activity party next) := by
  intro other
  by_cases it : other = party
  · rw [it, Function.update_self, held party, kept]
  · rw [Function.update_of_ne it, held other]

theorem take (held : HeldBy none holds activity) (takes : holds next) :
    HeldBy (some party) holds (Function.update activity party next) := by
  intro other
  by_cases it : other = party
  · rw [it, Function.update_self]
    exact ⟨fun _ => takes, fun _ => rfl⟩
  · rw [Function.update_of_ne it, ← held other]
    exact ⟨fun owns => absurd (Option.some.inj owns).symm it, nofun⟩

theorem leave (held : HeldBy owner holds activity) (holding : holds (activity party))
    (leaves : ¬ holds next) : HeldBy none holds (Function.update activity party next) := by
  intro other
  by_cases it : other = party
  · rw [it, Function.update_self]
    exact ⟨nofun, fun holds => absurd holds leaves⟩
  · rw [Function.update_of_ne it]
    exact ⟨nofun, fun holds => absurd (held.unique holds holding) it⟩

section Family

variable {Key : Type} [DecidableEq Key] {owners : Key → Option Party}
  {holdsAt : Key → Activity → Prop} {key : Key}

/-- Of many locks, one is taken. -/
theorem takeAt (held : ∀ other, HeldBy (owners other) (holdsAt other) activity)
    (free : owners key = none) (takes : holdsAt key next)
    (kept : ∀ other, other ≠ key → (holdsAt other next ↔ holdsAt other (activity party))) :
    ∀ other, HeldBy (Function.update owners key (some party) other) (holdsAt other)
      (Function.update activity party next) := by
  intro other
  by_cases it : other = key
  · rw [it, Function.update_self]
    exact (free ▸ held key).take takes
  · rw [Function.update_of_ne it]
    exact (held other).same (kept other it)

theorem leaveAt (held : ∀ other, HeldBy (owners other) (holdsAt other) activity)
    (holding : holdsAt key (activity party)) (leaves : ¬ holdsAt key next)
    (kept : ∀ other, other ≠ key → (holdsAt other next ↔ holdsAt other (activity party))) :
    ∀ other, HeldBy (Function.update owners key none other) (holdsAt other)
      (Function.update activity party next) := by
  intro other
  by_cases it : other = key
  · rw [it, Function.update_self]
    exact (held key).leave holding leaves
  · rw [Function.update_of_ne it]
    exact (held other).same (kept other it)

end Family

end HeldBy

end FiberApp.Foundation
