import Mathlib.Data.List.Basic
import FiberApp.Foundation.TextSearch

/-! Texts of parts that each follow a separator, and searching them up to a folding of their
elements, such as the case of letters. -/

set_option autoImplicit false

namespace FiberApp.Foundation

variable {α β : Type}

def separated (separator : α) (parts : List (List α)) : List α :=
  parts.flatMap (separator :: ·)

@[simp] theorem separated_nil (separator : α) : separated separator [] = [] := rfl

theorem separated_cons (separator : α) (part : List α) (parts : List (List α)) :
    separated separator (part :: parts) = separator :: (part ++ separated separator parts) := by
  rw [separated, List.flatMap_cons, List.cons_append, separated]

theorem separated_append (separator : α) (before after : List (List α)) :
    separated separator (before ++ after) =
      separated separator before ++ separated separator after :=
  List.flatMap_append

theorem append_eq_append_cons {separator : α} {free rest first after : List α}
    (sepFree : separator ∉ free) (same : free ++ rest = first ++ separator :: after) :
    ∃ late, first = free ++ late ∧ rest = late ++ separator :: after := by
  induction free generalizing first with
  | nil => exact ⟨first, rfl, same⟩
  | cons head free ih =>
      cases first with
      | nil => exact absurd ((List.cons.inj same).1 ▸ List.mem_cons_self) sepFree
      | cons other first =>
          obtain ⟨rfl, tails⟩ := List.cons.inj same
          obtain ⟨late, rfl, rfl⟩ := ih (mt (List.mem_cons_of_mem _) sepFree) tails
          exact ⟨late, rfl, rfl⟩

/-- The separator stands behind a mark without it or in front of it. -/
theorem append_mark_eq_iff {separator : α} {before mark after first rest : List α}
    (markFree : separator ∉ mark) :
    before ++ (mark ++ after) = first ++ separator :: rest ↔
      (∃ late, first = before ++ (mark ++ late) ∧ after = late ++ separator :: rest) ∨
        ∃ early, before = first ++ separator :: early ∧ rest = early ++ (mark ++ after) := by
  constructor
  · intro same
    rcases List.append_eq_append_iff.mp same with ⟨extra, rfl, split⟩ | ⟨extra, rfl, split⟩
    · obtain ⟨late, rfl, rfl⟩ := append_eq_append_cons markFree split
      exact .inl ⟨late, rfl, rfl⟩
    · cases extra with
      | nil =>
          obtain ⟨late, empty, rfl⟩ := append_eq_append_cons markFree
            (split.symm.trans (List.nil_append _).symm)
          obtain ⟨rfl, rfl⟩ := List.append_eq_nil_iff.mp empty.symm
          exact .inl ⟨[], by simp, rfl⟩
      | cons other early =>
          obtain ⟨rfl, rfl⟩ := List.cons.inj split
          exact .inr ⟨early, rfl, rfl⟩
  · rintro (⟨late, rfl, rfl⟩ | ⟨early, rfl, rfl⟩) <;> simp

section Split

variable [BEq α] [LawfulBEq α] {separator : α}

theorem splitOn_separated {first : List α} {parts : List (List α)} (firstFree : separator ∉ first)
    (free : ∀ part ∈ parts, separator ∉ part) :
    (first ++ separated separator parts).splitOn separator = first :: parts := by
  induction parts generalizing first with
  | nil => rw [separated_nil, List.append_nil, List.splitOn_eq_singleton firstFree]
  | cons part parts ih =>
      obtain ⟨partFree, restFree⟩ := List.forall_mem_cons.mp free
      rw [separated_cons, List.splitOn_append_cons_self_of_not_mem firstFree,
        ih partFree restFree]

theorem separated_of_splitOn {text first : List α} {parts : List (List α)}
    (split : text.splitOn separator = first :: parts) :
    text = first ++ separated separator parts := by
  have joined : text = [separator].intercalate (first :: parts) := by
    rw [← split, List.intercalate_splitOn]
  rw [joined]
  clear split joined
  induction parts generalizing first with
  | nil => rw [List.intercalate_singleton, separated_nil, List.append_nil]
  | cons part parts ih =>
      rw [List.intercalate_cons_cons, ih, separated_cons, List.append_assoc, List.singleton_append]

theorem separated_inj {first other : List α} {parts others : List (List α)}
    (firstFree : separator ∉ first) (otherFree : separator ∉ other)
    (partsFree : ∀ part ∈ parts, separator ∉ part)
    (othersFree : ∀ part ∈ others, separator ∉ part) :
    first ++ separated separator parts = other ++ separated separator others ↔
      first = other ∧ parts = others := by
  constructor
  · intro same
    have split := congrArg (·.splitOn separator) same
    simp only [splitOn_separated firstFree partsFree, splitOn_separated otherFree othersFree]
      at split
    exact List.cons.inj split
  · intro parts
    obtain ⟨rfl, rfl⟩ := parts
    rfl

/-- What stands before the first separator is determined. -/
theorem before_eq_of_append_cons {before other after rest : List α} (free : separator ∉ before)
    (otherFree : separator ∉ other)
    (same : before ++ separator :: after = other ++ separator :: rest) : before = other := by
  have split := congrArg (·.splitOn separator) same
  simp only [List.splitOn_append_cons_self_of_not_mem free,
    List.splitOn_append_cons_self_of_not_mem otherFree] at split
  exact (List.cons.inj split).1

/-- What stands before the first separator is found at the start of a cut text too. -/
theorem before_eq_of_take_append {first other rest after digits : List α} {kept : Nat}
    (firstFree : separator ∉ first) (otherFree : separator ∉ other)
    (digitsFree : separator ∉ digits)
    (same : (first ++ separator :: rest).take kept ++ digits = other ++ separator :: after) :
    first = other := by
  have member : separator ∈ (first ++ separator :: rest).take kept := by
    have inText : separator ∈ (first ++ separator :: rest).take kept ++ digits :=
      same ▸ List.mem_append_right other List.mem_cons_self
    exact (List.mem_append.mp inText).resolve_right digitsFree
  obtain ⟨before, behind, cut, beforeFree⟩ := List.eq_append_cons_of_mem member
  have whole := List.take_append_drop kept (first ++ separator :: rest)
  rw [cut, List.append_assoc, List.cons_append] at whole
  rw [cut, List.append_assoc, List.cons_append] at same
  rw [← before_eq_of_append_cons beforeFree firstFree whole]
  exact before_eq_of_append_cons beforeFree otherFree same

/-- A text that starts inside a part ends with whole parts. -/
theorem parts_of_separated_eq {parts others : List (List α)} {text first : List α} {mark : α}
    (markOther : mark ≠ separator) (firstFree : separator ∉ first)
    (free : ∀ part ∈ parts, separator ∉ part) (othersFree : ∀ part ∈ others, separator ∉ part)
    (same : separated separator parts = text ++ mark :: (first ++ separated separator others)) :
    ∃ early head, parts = early ++ head :: others := by
  induction parts generalizing text with
  | nil => simp at same
  | cons part parts ih =>
      obtain ⟨partFree, restFree⟩ := List.forall_mem_cons.mp free
      rw [separated_cons] at same
      cases text with
      | nil => exact absurd (List.cons.inj same).1.symm markOther
      | cons letter text =>
          have rest := (List.cons.inj same).2
          rcases List.append_eq_append_iff.mp rest with ⟨more, -, later⟩ | ⟨more, inside, later⟩
          · obtain ⟨early, head, rfl⟩ := ih restFree later
            exact ⟨part :: early, head, rfl⟩
          · cases more with
            | nil =>
                obtain ⟨early, head, rfl⟩ := ih restFree (later.symm.trans (List.nil_append _).symm)
                exact ⟨part :: early, head, rfl⟩
            | cons other more =>
                have moreFree : separator ∉ more := fun member => partFree
                  (inside ▸ List.mem_append_right text (List.mem_cons_of_mem other member))
                obtain ⟨-, rfl⟩ := (separated_inj firstFree moreFree othersFree restFree).mp
                  (List.cons.inj later).2
                exact ⟨[], part, rfl⟩

/-- Putting other digits at the end of a cut text puts them in the place of the old ones only
when nothing is behind them. -/
theorem take_append_replaced_iff {before digits other rest : List α} {parts : List (List α)}
    {kept : Nat} (digitsFree : separator ∉ digits) (otherFree : separator ∉ other)
    (differ : digits ≠ other)
    (inside : kept ≤ (before ++ (digits ++ (separated separator parts ++ rest))).length) :
    (before ++ (digits ++ (separated separator parts ++ rest))).take kept ++ other =
        before ++ (other ++ separated separator parts) ↔
      parts = [] ∧ kept = before.length := by
  constructor
  · intro same
    have lengths := congrArg List.length same
    rw [List.length_append, List.length_take, Nat.min_eq_left inside] at lengths
    simp only [List.length_append] at lengths
    cases parts with
    | nil =>
        rw [separated_nil, List.length_nil] at lengths
        exact ⟨rfl, by omega⟩
    | cons part parts =>
        have keptLength :
            kept = before.length + (separated separator (part :: parts)).length := by omega
        rw [keptLength, List.take_length_add_append, List.append_assoc,
          List.append_cancel_left_eq, separated_cons, List.cons_append] at same
        exact absurd (before_eq_of_take_append digitsFree otherFree otherFree same) differ
  · intro parts
    obtain ⟨rfl, rfl⟩ := parts
    rw [List.take_left, separated_nil, List.append_nil]

end Split

/-- The text is empty or starts with the separator. -/
def StartsApart (separator : α) (text : List α) : Prop :=
  text = [] ∨ ∃ rest, text = separator :: rest

theorem startsApart_separated (separator : α) (parts : List (List α)) :
    StartsApart separator (separated separator parts) := by
  cases parts with
  | nil => exact .inl rfl
  | cons part parts => exact .inr ⟨_, separated_cons separator part parts⟩

theorem StartsApart.append {separator : α} {text rest : List α}
    (textApart : StartsApart separator text) (restApart : StartsApart separator rest) :
    StartsApart separator (text ++ rest) := by
  rcases textApart with rfl | ⟨more, rfl⟩
  · exact restApart
  · exact .inr ⟨_, rfl⟩

section Unique

variable [BEq α] [LawfulBEq α] {separator : α} {mark : List α}

theorem splitOn_apart (markFree : separator ∉ mark) {rest : List α}
    (apart : StartsApart separator rest) :
    ∃ parts, (mark ++ rest).splitOn separator = mark :: parts := by
  rcases apart with rfl | ⟨more, rfl⟩
  · exact ⟨[], by rw [List.append_nil, List.splitOn_eq_singleton markFree]⟩
  · exact ⟨_, List.splitOn_append_cons_self_of_not_mem markFree more⟩

/-- A mark that is one of the parts only once is found only there. -/
theorem before_mark_iff {first : List α} {before after : List (List α)}
    (firstFree : separator ∉ first) (markFree : separator ∉ mark)
    (beforeFree : ∀ part ∈ before, separator ∉ part)
    (afterFree : ∀ part ∈ after, separator ∉ part)
    (notBefore : mark ∉ before) (notAfter : mark ∉ after) {text rest : List α}
    (apart : StartsApart separator rest) :
    first ++ separated separator (before ++ mark :: after) =
        text ++ separator :: (mark ++ rest) ↔
      text = first ++ separated separator before ∧ rest = separated separator after := by
  constructor
  · intro same
    have free : ∀ part ∈ before ++ mark :: after, separator ∉ part := by
      intro part member
      rcases List.mem_append.mp member with early | late
      · exact beforeFree part early
      · rcases List.mem_cons.mp late with rfl | late
        · exact markFree
        · exact afterFree part late
    have split := congrArg (·.splitOn separator) same
    obtain ⟨head, tail, textSplit⟩ := List.exists_cons_of_ne_nil
      (List.splitOn_ne_nil separator text)
    obtain ⟨parts, restSplit⟩ := splitOn_apart markFree apart
    simp only [splitOn_separated firstFree free, List.splitOn_append_cons_self, textSplit,
      restSplit, List.cons_append, List.cons.injEq] at split
    obtain ⟨rfl, split⟩ := split
    obtain ⟨rfl, -, rfl⟩ := (List.append_cons_inj_of_notMem notBefore notAfter).mp split
    have textEq := separated_of_splitOn textSplit
    refine ⟨textEq, ?_⟩
    rw [textEq, separated_append, separated_cons, List.append_assoc] at same
    have rest_eq := List.append_cancel_left (List.append_cancel_left same)
    exact (List.append_cancel_left (List.cons.inj rest_eq).2).symm
  · intro replaced
    obtain ⟨rfl, rfl⟩ := replaced
    rw [separated_append, separated_cons, List.append_assoc]

theorem ne_of_mark_notMem {first : List α} {parts : List (List α)}
    (firstFree : separator ∉ first) (markFree : separator ∉ mark)
    (free : ∀ part ∈ parts, separator ∉ part) (unmarked : mark ∉ parts) {text rest : List α}
    (apart : StartsApart separator rest) :
    first ++ separated separator parts ≠ text ++ separator :: (mark ++ rest) := by
  intro same
  have split := congrArg (·.splitOn separator) same
  obtain ⟨head, tail, textSplit⟩ := List.exists_cons_of_ne_nil
    (List.splitOn_ne_nil separator text)
  obtain ⟨more, restSplit⟩ := splitOn_apart markFree apart
  simp only [splitOn_separated firstFree free, List.splitOn_append_cons_self, textSplit,
    restSplit, List.cons_append, List.cons.injEq] at split
  exact unmarked (split.2 ▸ List.mem_append_right tail List.mem_cons_self)

end Unique

/-- A text is put together again from a cut and its last letters. -/
theorem take_append_eq_iff {front more digits : List α} {kept : Nat}
    (inside : kept ≤ (front ++ more).length) :
    (front ++ more).take kept ++ digits = front ↔
      kept + digits.length = front.length ∧ digits <:+ front := by
  constructor
  · intro same
    have lengths := congrArg List.length same
    rw [List.length_append, List.length_take, Nat.min_eq_left inside] at lengths
    exact ⟨lengths, _, same⟩
  · intro place
    obtain ⟨lengths, start, rfl⟩ := place
    rw [List.length_append, Nat.add_right_cancel_iff] at lengths
    rw [lengths, List.append_assoc, List.take_left]

section Search

variable (fold : α → β) [DecidableEq β]

/-- The text starts with the needle, up to the folding. -/
def StartsFolded (needle text : List α) : Prop := needle.map fold <+: text.map fold

instance (needle text : List α) : Decidable (StartsFolded fold needle text) :=
  inferInstanceAs (Decidable (_ <+: _))

/-- The offset of the first place where the needle stands, up to the folding. -/
def findFolded (needle : List α) : List α → Option Nat
  | [] => if needle.isEmpty then some 0 else none
  | first :: rest =>
      if StartsFolded fold needle (first :: rest) then some 0
      else (findFolded needle rest).map (· + 1)

variable {fold}

theorem findFolded_some {needle text : List α} {offset : Nat}
    (found : findFolded fold needle text = some offset) :
    offset ≤ text.length ∧ StartsFolded fold needle (text.drop offset) := by
  induction text generalizing offset with
  | nil =>
      simp only [findFolded, List.isEmpty_iff, Option.ite_none_right_eq_some,
        Option.some.injEq] at found
      obtain ⟨rfl, rfl⟩ := found
      exact ⟨Nat.le_refl 0, List.nil_prefix⟩
  | cons first rest ih =>
      rw [findFolded] at found
      split at found
      case isTrue starts =>
        cases found
        exact ⟨Nat.zero_le _, starts⟩
      case isFalse =>
        obtain ⟨earlier, later, rfl⟩ := Option.map_eq_some_iff.mp found
        obtain ⟨inside, starts⟩ := ih later
        exact ⟨Nat.succ_le_succ inside, starts⟩

theorem findFolded_first {needle text : List α} {offset earlier : Nat}
    (found : findFolded fold needle text = some offset) (before : earlier < offset) :
    ¬ StartsFolded fold needle (text.drop earlier) := by
  induction text generalizing offset earlier with
  | nil =>
      simp only [findFolded, List.isEmpty_iff, Option.ite_none_right_eq_some,
        Option.some.injEq] at found
      omega
  | cons first rest ih =>
      rw [findFolded] at found
      split at found
      case isTrue =>
        cases found
        exact absurd before (Nat.not_lt_zero earlier)
      case isFalse away =>
        obtain ⟨inRest, later, rfl⟩ := Option.map_eq_some_iff.mp found
        cases earlier with
        | zero => exact away
        | succ earlier => exact ih later (Nat.lt_of_succ_lt_succ before)

theorem findFolded_none {needle text : List α} (missing : findFolded fold needle text = none)
    {offset : Nat} (inside : offset ≤ text.length) :
    ¬ StartsFolded fold needle (text.drop offset) := by
  induction text generalizing offset with
  | nil =>
      simp only [findFolded, List.isEmpty_iff, ite_eq_right_iff] at missing
      rw [List.drop_nil]
      intro starts
      have empty := List.map_eq_nil_iff.mp (List.prefix_nil.mp starts)
      cases missing empty
  | cons first rest ih =>
      rw [findFolded] at missing
      split at missing
      case isTrue => cases missing
      case isFalse away =>
        cases offset with
        | zero => exact away
        | succ offset =>
            exact ih (Option.map_eq_none_iff.mp missing) (Nat.le_of_succ_le_succ inside)

theorem findFolded_append_cons {needle : List α} (before after : List α) {separator : α}
    (nonempty : needle ≠ []) (outside : fold separator ∉ needle.map fold) :
    findFolded fold needle (before ++ separator :: after) =
      (findFolded fold needle before).or
        ((findFolded fold needle after).map (· + (before.length + 1))) := by
  have starts_iff (text : List α) :
      StartsFolded fold needle (text ++ separator :: after) ↔ StartsFolded fold needle text := by
    rw [StartsFolded, List.map_append, List.map_cons]
    exact prefix_append_cons_iff (text.map fold) (after.map fold) outside
  induction before with
  | nil =>
      have away : ¬ StartsFolded fold needle (separator :: after) := by
        intro starts
        have empty := List.prefix_nil.mp ((starts_iff []).mp starts)
        exact nonempty (List.map_eq_nil_iff.mp empty)
      simp [findFolded, away, nonempty]
  | cons first rest ih =>
      rw [List.cons_append, findFolded, findFolded, ← List.cons_append]
      by_cases starts : StartsFolded fold needle (first :: rest)
      · rw [if_pos ((starts_iff _).mpr starts), if_pos starts, Option.some_or]
      · rw [if_neg (mt (starts_iff _).mp starts), if_neg starts, ih]
        cases findFolded fold needle rest <;> cases findFolded fold needle after <;>
          simp [Nat.add_assoc]

variable {separator : α} {word : List α}

/-- Without its separator a place does not start the needle. -/
theorem findFolded_skip {before : List α} (free : fold separator ∉ before.map fold)
    (text : List α) :
    findFolded fold (separator :: word) (before ++ text) =
      (findFolded fold (separator :: word) text).map (before.length + ·) := by
  induction before with
  | nil => simp
  | cons first rest ih =>
      rw [List.map_cons, List.mem_cons, not_or] at free
      have away : ¬ StartsFolded fold (separator :: word) (first :: (rest ++ text)) := by
        intro starts
        rw [StartsFolded, List.map_cons, List.map_cons, List.cons_prefix_cons] at starts
        exact free.1 starts.1
      rw [List.cons_append, findFolded, if_neg away, ih free.2, Option.map_map]
      congr 1
      funext offset
      simp only [Function.comp_apply, List.length_cons]
      omega

/-- In a text of parts the needle stands where the first part starts with its word. -/
theorem findFolded_separated {parts : List (List α)} (outside : fold separator ∉ word.map fold)
    (free : ∀ part ∈ parts, fold separator ∉ part.map fold) :
    findFolded fold (separator :: word) (separated separator parts) =
      if parts.any fun part => StartsFolded fold word part then
        some (separated separator
          (parts.takeWhile fun part => ¬ StartsFolded fold word part)).length
      else none := by
  induction parts with
  | nil => simp [findFolded]
  | cons part parts ih =>
      obtain ⟨partFree, partsFree⟩ := List.forall_mem_cons.mp free
      have starts_iff : StartsFolded fold (separator :: word)
          (separator :: (part ++ separated separator parts)) ↔ StartsFolded fold word part := by
        rw [StartsFolded, List.map_cons, List.map_cons, List.cons_prefix_cons, List.map_append]
        refine (and_iff_right rfl).trans ?_
        rcases startsApart_separated separator parts with empty | ⟨rest, split⟩
        · rw [empty, List.map_nil, List.append_nil, StartsFolded]
        · rw [split, List.map_cons]
          exact prefix_append_cons_iff (part.map fold) (rest.map fold) outside
      rw [separated_cons, findFolded]
      by_cases starts : StartsFolded fold word part
      · simp [starts_iff.mpr starts, starts]
      · rw [if_neg (mt starts_iff.mp starts), findFolded_skip partFree, ih partsFree]
        cases later : parts.any fun part => decide (StartsFolded fold word part) with
        | false => simp [starts, later]
        | true => simp [starts, later, separated_cons]

end Search

end FiberApp.Foundation
