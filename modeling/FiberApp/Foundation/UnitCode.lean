import Mathlib.Data.List.Basic

/-! Codes that write each symbol as a unit of one or more symbols and read it back, with a
buffer that may be too short. -/

set_option autoImplicit false

namespace FiberApp.Foundation

variable {Source Target : Type}

/-- Writes whole units as long as they leave a place of the room free. -/
def writeUnits (unit : Source → List Target) (room : Nat) :
    List Source → List Target → List Target
  | [], buffer => buffer
  | symbol :: rest, buffer =>
      if buffer.length + (unit symbol).length < room then
        writeUnits unit room rest (buffer ++ unit symbol)
      else buffer

/-- `next` is given the first symbol of a unit and all that follows it. The fuel bounds the
number of units. -/
def readUnits (next : Target → List Target → Source × List Target) (room : Nat) :
    Nat → List Target → List Source → List Source
  | 0, _, buffer => buffer
  | _ + 1, [], buffer => buffer
  | fuel + 1, first :: rest, buffer =>
      if buffer.length + 1 < room then
        readUnits next room fuel (next first rest).2 (buffer ++ [(next first rest).1])
      else buffer

/-- A unit is told from what follows it. -/
def UnitCode (unit : Source → List Target)
    (next : Target → List Target → Source × List Target) : Prop :=
  ∀ symbol tail, ∃ first more, unit symbol = first :: more ∧
    next first (more ++ tail) = (symbol, tail)

variable {unit : Source → List Target} {next : Target → List Target → Source × List Target}
  {room : Nat}

theorem UnitCode.unit_ne_nil (code : UnitCode unit next) (symbol : Source) :
    unit symbol ≠ [] := by
  obtain ⟨first, more, same, -⟩ := code symbol []
  rw [same]
  exact List.cons_ne_nil first more

/-- What is written are the units of the longest prefix that fits. -/
theorem writeUnits_spec (source : List Source) {buffer : List Target}
    (short : buffer.length < room) :
    ∃ kept, kept <+: source ∧ writeUnits unit room source buffer = buffer ++ kept.flatMap unit ∧
      (writeUnits unit room source buffer).length < room ∧
      (kept = source ↔ buffer.length + (source.flatMap unit).length < room) := by
  induction source generalizing buffer with
  | nil =>
      refine ⟨[], List.prefix_rfl, by simp [writeUnits], short, by simpa using short⟩
  | cons symbol rest ih =>
      rw [writeUnits]
      by_cases fits : buffer.length + (unit symbol).length < room
      · rw [if_pos fits]
        have shorter : (buffer ++ unit symbol).length < room := by
          rwa [List.length_append]
        obtain ⟨kept, isPrefix, same, bounded, whole⟩ := ih shorter
        refine ⟨symbol :: kept, List.cons_prefix_cons.mpr ⟨rfl, isPrefix⟩, ?_, bounded, ?_⟩
        · rw [same, List.flatMap_cons, List.append_assoc]
        · rw [List.cons.injEq, and_iff_right rfl, whole, List.flatMap_cons, List.length_append,
            List.length_append, Nat.add_assoc]
      · rw [if_neg fits]
        refine ⟨[], List.nil_prefix, by simp, short, ?_⟩
        -- Not even the first unit fits.
        rw [List.flatMap_cons, List.length_append]
        constructor
        · intro same
          exact absurd same.symm (List.cons_ne_nil symbol rest)
        · intro whole
          omega

theorem UnitCode.readUnits_flatMap (code : UnitCode unit next) (kept : List Source)
    {fuel : Nat} {buffer : List Source}
    (enough : kept.length ≤ fuel) (fits : buffer.length + kept.length < room) :
    readUnits next room fuel (kept.flatMap unit) buffer = buffer ++ kept := by
  induction kept generalizing fuel buffer with
  | nil => cases fuel <;> simp [readUnits]
  | cons symbol rest ih =>
      obtain ⟨first, more, same, read⟩ := code symbol (rest.flatMap unit)
      obtain ⟨fuel, rfl⟩ := Nat.exists_eq_succ_of_ne_zero (Nat.ne_zero_of_lt enough)
      rw [List.length_cons] at enough fits
      have space : buffer.length + 1 < room := by omega
      rw [List.flatMap_cons, same, List.cons_append, readUnits, if_pos space, read,
        ih (by omega) (by rw [List.length_append, List.length_singleton]; omega),
        List.append_assoc, List.singleton_append]

theorem UnitCode.length_le (code : UnitCode unit next) (kept : List Source) :
    kept.length ≤ (kept.flatMap unit).length := by
  induction kept with
  | nil => exact Nat.le_refl 0
  | cons symbol rest ih =>
      have written := List.length_pos_iff.mpr (code.unit_ne_nil symbol)
      rw [List.flatMap_cons, List.length_append, List.length_cons]
      omega

@[simp] theorem writeUnits_zero (source : List Source) :
    writeUnits unit 0 source [] = [] := by
  cases source <;> simp [writeUnits]

@[simp] theorem readUnits_zero (fuel : Nat) (written : List Target) :
    readUnits next 0 fuel written [] = [] := by
  cases fuel <;> cases written <;> simp [readUnits]

/-- What was written are whole units, which are read back up to the symbol where the room
ended, and all of them when they fit. -/
theorem UnitCode.reads_back (code : UnitCode unit next) (source : List Source)
    (space : 0 < room) :
    ∃ kept, kept <+: source ∧ writeUnits unit room source [] = kept.flatMap unit ∧
      (writeUnits unit room source []).length < room ∧
      (kept = source ↔ (source.flatMap unit).length < room) ∧
      ∀ roomBack, kept.length < roomBack →
        readUnits next roomBack (writeUnits unit room source []).length
          (writeUnits unit room source []) [] = kept := by
  have empty : ([] : List Target).length < room := space
  obtain ⟨kept, isPrefix, same, bounded, whole⟩ := writeUnits_spec source empty
  refine ⟨kept, isPrefix, by rw [same, List.nil_append], bounded, ?_, fun roomBack fits => ?_⟩
  · rw [whole, List.length_nil, Nat.zero_add]
  · rw [same, List.nil_append, code.readUnits_flatMap kept (code.length_le kept)
      (by simpa using fits), List.nil_append]

end FiberApp.Foundation
