import FiberApp.Foundation.Execution
import FiberApp.Foundation.SlidingWindow
import FiberApp.Bandwidth.DuplicatePacketChecker
import Mathlib.Data.List.Nodup

/-! The duplicate-packet filter refines a receive window over unwrapped packet
numbers, as long as no call takes the `reset()` branch. -/

set_option autoImplicit false

namespace FiberApp.Bandwidth

open Foundation

structure Reception where
  seqNo : BitVec 16
  number : Int
  accepted : Bool
  deriving DecidableEq, Repr

/-- A checker with the calls made on it, newest first. A call is logged with its
packet number before the wrap to sixteen bits. -/
structure Session where
  checker : DuplicatePacketChecker
  highest : Int
  log : List Reception
  deriving DecidableEq, Repr

namespace Session

def initial : Session := ⟨.initial, 0, []⟩

def number (session : Session) (seqNo : BitVec 16) : Int :=
  if session.checker.mFirstPacket then seqNo.toNat
  else session.highest + seqDelta seqNo session.checker.mHighestSeqNo

def receive (session : Session) (seqNo : BitVec 16) : Session :=
  let (checker, accepted) := session.checker.insertAndTest seqNo
  { checker := checker
    highest :=
      if session.checker.mFirstPacket then session.number seqNo
      else max session.highest (session.number seqNo)
    log := ⟨seqNo, session.number seqNo, accepted⟩ :: session.log }

def acceptedNumbers (session : Session) : List Int :=
  (session.log.filter (·.accepted)).map (·.number)

def window (session : Session) : SlidingWindow where
  highest := session.highest
  accepted := {number | number ∈ session.acceptedNumbers}

def WithoutReset (session : Session) (seqNo : BitVec 16) : Prop :=
  session.checker.triggersReset seqNo = false

instance (session : Session) (seqNo : BitVec 16) : Decidable (session.WithoutReset seqNo) :=
  inferInstanceAs (Decidable (_ = false))

/-- A session that has accepted its first packet and whose checker holds the
last `windowSize` numbers of the abstract window. -/
structure Tracks (session : Session) : Prop where
  started : session.checker.mFirstPacket = false
  highest : session.checker.mHighestSeqNo = BitVec.ofInt 16 session.highest
  bounded : session.window.Bounded
  bits : ∀ age, session.checker.mDupeWindow.getLsbD age = true ↔
    age < windowSize ∧ session.highest - age ∈ session.acceptedNumbers
  unique : session.acceptedNumbers.Nodup
  wrapped : ∀ reception ∈ session.log, reception.seqNo = BitVec.ofInt 16 reception.number

def Untouched (session : Session) : Prop :=
  session.checker = .initial ∧ session.highest = 0 ∧ session.log = []

end Session

namespace DuplicatePacketChecker

theorem getLsbD_markWindow (bits : BitVec windowSize) (index age : Nat) :
    (markWindow bits index).getLsbD age = true ↔
      bits.getLsbD age = true ∨ age < windowSize ∧ age = index := by
  simp only [markWindow, BitVec.getLsbD_or, BitVec.getLsbD_twoPow, Bool.or_eq_true,
    Bool.and_eq_true, decide_eq_true_eq]
  constructor
  · intro set
    rcases set with set | ⟨bound, same⟩
    · exact .inl set
    · exact .inr ⟨same ▸ bound, same.symm⟩
  · intro set
    rcases set with set | ⟨bound, same⟩
    · exact .inl set
    · exact .inr ⟨same ▸ bound, same.symm⟩

theorem insertAndTest_cases {checker : DuplicatePacketChecker} {seqNo : BitVec 16}
    (started : checker.mFirstPacket = false) (kept : checker.triggersReset seqNo = false) :
    (∃ ahead : Nat, seqDelta seqNo checker.mHighestSeqNo = ahead ∧ 0 < ahead ∧
      checker.insertAndTest seqNo =
        ({ checker with
            mDupeWindow := markWindow (checker.mDupeWindow <<< ahead) 0
            mHighestSeqNo := seqNo }, true)) ∨
    (∃ age : Nat, seqDelta seqNo checker.mHighestSeqNo = -age ∧ age < windowSize ∧
      checker.mDupeWindow.getLsbD age = false ∧
      checker.insertAndTest seqNo =
        ({ checker with mDupeWindow := markWindow checker.mDupeWindow age }, true)) ∨
    (∃ age : Nat, seqDelta seqNo checker.mHighestSeqNo = -age ∧
      (age < windowSize → checker.mDupeWindow.getLsbD age = true) ∧
      checker.insertAndTest seqNo = (checker, false)) := by
  have sameStream : isNewStream (seqDelta seqNo checker.mHighestSeqNo) = false := by
    simpa [triggersReset, started] using kept
  by_cases forward : 0 < seqDelta seqNo checker.mHighestSeqNo
  · obtain ⟨ahead, delta⟩ := Int.eq_ofNat_of_zero_le (Int.le_of_lt forward)
    refine .inl ⟨ahead, delta, by omega, ?_⟩
    rw [delta] at sameStream
    simp only [insertAndTest, started, delta, sameStream, Bool.false_eq_true, ↓reduceIte,
      Int.toNat_natCast]
    rw [if_pos (by omega)]
  · obtain ⟨age, delta⟩ := Int.eq_ofNat_of_zero_le
      (show 0 ≤ -seqDelta seqNo checker.mHighestSeqNo by omega)
    have back : seqDelta seqNo checker.mHighestSeqNo = -age := by omega
    by_cases seen : age < windowSize ∧ checker.mDupeWindow.getLsbD age = false
    · obtain ⟨bound, fresh⟩ := seen
      refine .inr (.inl ⟨age, back, bound, fresh, ?_⟩)
      simp only [insertAndTest, started, sameStream, forward, delta, bound, fresh,
        Bool.false_eq_true, ↓reduceIte, Int.toNat_natCast]
    · have duplicate : age < windowSize → checker.mDupeWindow.getLsbD age = true := by
        intro bound
        simpa [bound] using seen
      refine .inr (.inr ⟨age, back, duplicate, ?_⟩)
      by_cases bound : age < windowSize
      · simp only [insertAndTest, started, sameStream, forward, delta, bound, duplicate bound,
          Bool.false_eq_true, ↓reduceIte, Int.toNat_natCast]
      · simp only [insertAndTest, started, sameStream, forward, delta, bound,
          Bool.false_eq_true, ↓reduceIte, Int.toNat_natCast]

end DuplicatePacketChecker

theorem seqNo_eq_ofInt (cur prev : BitVec 16) {base : Int} (same : prev = BitVec.ofInt 16 base) :
    cur = BitVec.ofInt 16 (base + seqDelta cur prev) := by
  rw [BitVec.ofInt_add, seqDelta, BitVec.ofInt_toInt, ← same, BitVec.add_comm,
    BitVec.sub_add_cancel]

namespace Session

theorem acceptedNumbers_receive (session : Session) (seqNo : BitVec 16) :
    (session.receive seqNo).acceptedNumbers =
      if (session.checker.insertAndTest seqNo).2 then
        session.number seqNo :: session.acceptedNumbers
      else session.acceptedNumbers := by
  cases flag : (session.checker.insertAndTest seqNo).2 <;>
    simp [receive, acceptedNumbers, flag]

theorem Tracks.number_eq {session : Session} (tracks : session.Tracks) (seqNo : BitVec 16) :
    session.number seqNo = session.highest + seqDelta seqNo session.checker.mHighestSeqNo := by
  simp [number, tracks.started]

theorem Tracks.wrapped_number {session : Session} (tracks : session.Tracks) (seqNo : BitVec 16) :
    seqNo = BitVec.ofInt 16 (session.number seqNo) := by
  rw [tracks.number_eq]
  exact seqNo_eq_ofInt _ _ tracks.highest

theorem Tracks.accepted_iff {session : Session} (tracks : session.Tracks) {seqNo : BitVec 16}
    (kept : session.WithoutReset seqNo) :
    (session.checker.insertAndTest seqNo).2 = true ↔
      session.window.Admits windowSize (session.number seqNo) := by
  have number := tracks.number_eq seqNo
  rcases DuplicatePacketChecker.insertAndTest_cases tracks.started kept with
    ⟨ahead, delta, forward, outcome⟩ | ⟨age, delta, bound, fresh, outcome⟩ |
      ⟨age, delta, duplicate, outcome⟩
  · simp only [outcome, true_iff]
    refine .inl ?_
    change session.highest < session.number seqNo
    omega
  · simp only [outcome, true_iff]
    refine .inr ⟨?_, ?_⟩
    · change session.highest - windowSize < session.number seqNo
      omega
    · intro member
      have set := (tracks.bits age).mpr ⟨bound, by
        rw [show session.highest - age = session.number seqNo by omega]
        exact member⟩
      simp [fresh] at set
  · simp only [outcome, Bool.false_eq_true, false_iff]
    intro admitted
    rcases admitted with ahead | ⟨covered, fresh⟩
    · change session.highest < session.number seqNo at ahead
      omega
    · change session.highest - windowSize < session.number seqNo at covered
      have member := ((tracks.bits age).mp (duplicate (by omega))).2
      rw [show session.highest - age = session.number seqNo by omega] at member
      exact fresh member

theorem Tracks.highest_receive {session : Session} (tracks : session.Tracks)
    (seqNo : BitVec 16) :
    (session.receive seqNo).highest = max session.highest (session.number seqNo) := by
  simp [receive, tracks.started]

theorem Tracks.window_receive {session : Session} (tracks : session.Tracks) {seqNo : BitVec 16}
    (kept : session.WithoutReset seqNo) :
    (session.receive seqNo).window =
      session.window.receive windowSize (session.number seqNo) := by
  have highest := tracks.highest_receive seqNo
  by_cases admitted : session.window.Admits windowSize (session.number seqNo)
  · rw [SlidingWindow.receive_of_admits admitted]
    have accepted := (tracks.accepted_iff kept).mpr admitted
    simp only [window, highest, acceptedNumbers_receive, accepted, ↓reduceIte, List.mem_cons]
    rfl
  · have refused : ¬ (session.checker.insertAndTest seqNo).2 = true := fun accepted =>
      admitted ((tracks.accepted_iff kept).mp accepted)
    have behind : session.number seqNo ≤ session.highest :=
      not_lt.mp fun ahead => admitted (.inl ahead)
    rw [SlidingWindow.receive_of_not_admits admitted]
    simp only [window, highest, acceptedNumbers_receive, refused, ↓reduceIte, max_eq_left behind,
      Bool.false_eq_true]

theorem Tracks.bounded_receive {session : Session} (tracks : session.Tracks)
    {seqNo : BitVec 16} (kept : session.WithoutReset seqNo) :
    (session.receive seqNo).window.Bounded := by
  rw [tracks.window_receive kept]
  exact tracks.bounded.receive _

theorem Tracks.unique_receive {session : Session} (tracks : session.Tracks) {seqNo : BitVec 16}
    (kept : session.WithoutReset seqNo) : (session.receive seqNo).acceptedNumbers.Nodup := by
  rw [acceptedNumbers_receive]
  by_cases flag : (session.checker.insertAndTest seqNo).2 = true
  · rw [if_pos flag, List.nodup_cons]
    refine ⟨fun member => ?_, tracks.unique⟩
    rcases (tracks.accepted_iff kept).mp flag with ahead | ⟨_, fresh⟩
    · exact absurd (tracks.bounded _ member) (not_le.mpr ahead)
    · exact fresh member
  · rw [if_neg flag]
    exact tracks.unique

theorem Tracks.wrapped_receive {session : Session} (tracks : session.Tracks)
    (seqNo : BitVec 16) : ∀ reception ∈ (session.receive seqNo).log,
      reception.seqNo = BitVec.ofInt 16 reception.number := by
  intro reception member
  simp only [Session.receive, List.mem_cons] at member
  rcases member with rfl | member
  · exact tracks.wrapped_number seqNo
  · exact tracks.wrapped reception member

/-- Shifting the window by a jump ages every number it holds by the jump. -/
theorem Tracks.bits_ahead {session : Session} (tracks : session.Tracks) {ahead : Nat}
    (forward : 0 < ahead) (age : Nat) :
    (DuplicatePacketChecker.markWindow
        (session.checker.mDupeWindow <<< ahead) 0).getLsbD age = true ↔
      age < windowSize ∧ session.highest + ahead - age ∈
        (session.highest + ahead) :: session.acceptedNumbers := by
  simp only [DuplicatePacketChecker.getLsbD_markWindow, BitVec.getLsbD_shiftLeft,
    Bool.and_eq_true, decide_eq_true_eq, Bool.not_eq_true', decide_eq_false_iff_not,
    tracks.bits, List.mem_cons]
  constructor
  · intro set
    rcases set with ⟨⟨inside, old⟩, _, member⟩ | ⟨inside, rfl⟩
    · refine ⟨inside, .inr ?_⟩
      rwa [show session.highest + ahead - age = session.highest - (age - ahead : Nat) by omega]
    · exact ⟨inside, .inl (by omega)⟩
  · intro set
    obtain ⟨inside, same | member⟩ := set
    · exact .inr ⟨inside, by omega⟩
    · have behind := tracks.bounded _ member
      change _ ≤ session.highest at behind
      refine .inl ⟨⟨inside, by omega⟩, by omega, ?_⟩
      rwa [show session.highest - (age - ahead : Nat) = session.highest + ahead - age by omega]

theorem Tracks.bits_behind {session : Session} (tracks : session.Tracks) {late : Nat}
    (bound : late < windowSize) (age : Nat) :
    (DuplicatePacketChecker.markWindow session.checker.mDupeWindow late).getLsbD age = true ↔
      age < windowSize ∧ session.highest - age ∈
        (session.highest - late) :: session.acceptedNumbers := by
  simp only [DuplicatePacketChecker.getLsbD_markWindow, tracks.bits, List.mem_cons]
  constructor
  · intro set
    rcases set with ⟨inside, member⟩ | ⟨inside, rfl⟩
    · exact ⟨inside, .inr member⟩
    · exact ⟨inside, .inl rfl⟩
  · intro set
    obtain ⟨inside, same | member⟩ := set
    · exact .inr ⟨inside, by omega⟩
    · exact .inl ⟨inside, member⟩

theorem Tracks.receive {session : Session} (tracks : session.Tracks) {seqNo : BitVec 16}
    (kept : session.WithoutReset seqNo) : (session.receive seqNo).Tracks := by
  have number := tracks.number_eq seqNo
  have wrapped := tracks.wrapped_number seqNo
  have highest := tracks.highest_receive seqNo
  have bounded := tracks.bounded_receive kept
  have unique := tracks.unique_receive kept
  have logged := tracks.wrapped_receive seqNo
  rcases DuplicatePacketChecker.insertAndTest_cases tracks.started kept with
    ⟨ahead, delta, forward, outcome⟩ | ⟨late, delta, bound, fresh, outcome⟩ |
      ⟨late, delta, duplicate, outcome⟩
  · have raised : (session.receive seqNo).highest = session.number seqNo := by omega
    refine ⟨?_, ?_, bounded, fun age => ?_, unique, logged⟩
    · simp [Session.receive, outcome, tracks.started]
    · rw [raised, ← wrapped]
      simp [Session.receive, outcome]
    · rw [raised, acceptedNumbers_receive, number, delta, outcome, if_pos rfl]
      simp only [Session.receive, outcome]
      exact tracks.bits_ahead forward age
  · have level : (session.receive seqNo).highest = session.highest := by omega
    refine ⟨?_, ?_, bounded, fun age => ?_, unique, logged⟩
    · simp [Session.receive, outcome, tracks.started]
    · rw [level, ← tracks.highest]
      simp [Session.receive, outcome]
    · rw [level, acceptedNumbers_receive, number, delta, outcome, if_pos rfl]
      simp only [Session.receive, outcome]
      exact tracks.bits_behind bound age
  · have level : (session.receive seqNo).highest = session.highest := by omega
    refine ⟨?_, ?_, bounded, fun age => ?_, unique, logged⟩
    · simp [Session.receive, outcome, tracks.started]
    · rw [level, ← tracks.highest]
      simp [Session.receive, outcome]
    · rw [level, acceptedNumbers_receive]
      simp [Session.receive, outcome, tracks.bits]

theorem Untouched.receive {session : Session} (untouched : session.Untouched)
    (seqNo : BitVec 16) : (session.receive seqNo).Tracks := by
  obtain ⟨fresh, level, empty⟩ := untouched
  have number : session.number seqNo = seqNo.toNat := by
    simp [Session.number, fresh, DuplicatePacketChecker.initial]
  have outcome : session.checker.insertAndTest seqNo =
      ({ mDupeWindow := DuplicatePacketChecker.markWindow 0 0
         mHighestSeqNo := seqNo
         mFirstPacket := false }, true) := by
    simp [fresh, DuplicatePacketChecker.initial, DuplicatePacketChecker.insertAndTest,
      DuplicatePacketChecker.insertFirst]
  have highest : (session.receive seqNo).highest = seqNo.toNat := by
    rw [← number]
    simp [Session.receive, fresh, DuplicatePacketChecker.initial]
  have numbers : (session.receive seqNo).acceptedNumbers = [(seqNo.toNat : Int)] := by
    rw [acceptedNumbers_receive, outcome, number]
    simp [acceptedNumbers, empty]
  have wrapped : seqNo = BitVec.ofInt 16 seqNo.toNat := by
    rw [BitVec.ofInt_natCast, BitVec.ofNat_toNat, BitVec.setWidth_eq]
  refine ⟨?_, ?_, ?_, fun age => ?_, ?_, ?_⟩
  · simp [Session.receive, outcome]
  · rw [highest, ← wrapped]
    simp [Session.receive, outcome]
  · intro other member
    change other ∈ (session.receive seqNo).acceptedNumbers at member
    change other ≤ (session.receive seqNo).highest
    rw [numbers, List.mem_singleton] at member
    rw [highest, member]
  · rw [highest, numbers]
    simp only [Session.receive, outcome, DuplicatePacketChecker.getLsbD_markWindow,
      BitVec.ofNat_eq_ofNat, BitVec.getLsbD_zero, Bool.false_eq_true, false_or,
      List.mem_singleton]
    omega
  · rw [numbers]
    exact List.nodup_singleton _
  · intro reception member
    simp only [Session.receive, empty, List.mem_cons, List.not_mem_nil, or_false] at member
    rw [member, number]
    exact wrapped

def Consistent (session : Session) : Prop := session.Untouched ∨ session.Tracks

theorem Consistent.receive {session : Session} (consistent : session.Consistent)
    {seqNo : BitVec 16} (kept : session.WithoutReset seqNo) :
    (session.receive seqNo).Consistent := by
  rcases consistent with untouched | tracks
  · exact .inr (untouched.receive seqNo)
  · exact .inr (tracks.receive kept)

theorem consistent_initial : initial.Consistent := .inl ⟨rfl, rfl, rfl⟩

theorem Consistent.acceptedNumbers_nodup {session : Session} (consistent : session.Consistent) :
    session.acceptedNumbers.Nodup := by
  rcases consistent with ⟨_, _, empty⟩ | tracks
  · simp [acceptedNumbers, empty]
  · exact tracks.unique

theorem Consistent.bits {session : Session} (consistent : session.Consistent) (age : Nat) :
    session.checker.mDupeWindow.getLsbD age = true ↔
      age < windowSize ∧ session.highest - age ∈ session.acceptedNumbers := by
  rcases consistent with ⟨fresh, _, empty⟩ | tracks
  · simp [fresh, empty, acceptedNumbers, DuplicatePacketChecker.initial]
  · exact tracks.bits age

theorem Consistent.wrapped {session : Session} (consistent : session.Consistent) :
    session.checker.mHighestSeqNo = BitVec.ofInt 16 session.highest ∧
      ∀ reception ∈ session.log, reception.seqNo = BitVec.ofInt 16 reception.number := by
  rcases consistent with ⟨fresh, level, empty⟩ | tracks
  · rw [fresh, level, empty]
    exact ⟨rfl, by simp⟩
  · exact ⟨tracks.highest, tracks.wrapped⟩

theorem Consistent.refused_iff {session : Session} (consistent : session.Consistent)
    {seqNo : BitVec 16} (kept : session.WithoutReset seqNo)
    (inside : session.checker.insideWindow seqNo = true) :
    (session.checker.insertAndTest seqNo).2 = false ↔
      session.number seqNo ∈ session.acceptedNumbers := by
  rcases consistent with ⟨fresh, _, empty⟩ | tracks
  · simp [fresh, empty, acceptedNumbers, DuplicatePacketChecker.initial,
      DuplicatePacketChecker.insertAndTest, DuplicatePacketChecker.insertFirst]
  · have covered : session.window.Covers windowSize (session.number seqNo) := by
      simp only [DuplicatePacketChecker.insideWindow, tracks.started, Bool.false_or,
        decide_eq_true_eq] at inside
      rw [tracks.number_eq]
      change session.highest - windowSize < session.highest + _
      omega
    have admits := tracks.bounded.admits_iff covered
    rw [← Bool.not_eq_true, tracks.accepted_iff kept, admits, not_not]
    rfl

theorem mem_acceptedNumbers {session : Session} {number : Int} :
    number ∈ session.acceptedNumbers ↔
      ∃ reception ∈ session.log, reception.accepted = true ∧ reception.number = number := by
  simp [acceptedNumbers, and_assoc]

/-- The filter's law, where `same` says which earlier call counts as the packet
`age` below the highest one, and which as the packet of the next call. -/
structure Filters (session : Session) (aged : Nat → Reception → Prop)
    (again : BitVec 16 → Reception → Prop) : Prop where
  history : ∀ age < windowSize, session.checker.mDupeWindow.getLsbD age = true ↔
    ∃ reception ∈ session.log, reception.accepted = true ∧ aged age reception
  refused : ∀ seqNo, session.WithoutReset seqNo → session.checker.insideWindow seqNo = true →
    ((session.checker.insertAndTest seqNo).2 = false ↔
      ∃ reception ∈ session.log, reception.accepted = true ∧ again seqNo reception)

/-- Packets are told apart by their sixteen-bit numbers. -/
def FiltersSeqNo (session : Session) : Prop :=
  session.Filters
    (fun age reception => reception.seqNo = session.checker.mHighestSeqNo - BitVec.ofNat 16 age)
    (fun seqNo reception => reception.seqNo = seqNo)

/-- Packets are told apart by their numbers before the wrap. -/
def FiltersNumber (session : Session) : Prop :=
  session.Filters (fun age reception => reception.number = session.highest - age)
    (fun seqNo reception => reception.number = session.number seqNo)

def run (seqNos : List (BitVec 16)) : Session := seqNos.foldl receive initial

theorem consistent_run (seqNos : List (BitVec 16))
    (kept : Guarded (total receive) WithoutReset initial seqNos) :
    (run seqNos).Consistent := by
  apply execute_preserves Consistent _ consistent_initial kept (execute_total _ _ _)
  intro session seqNo next consistent withoutReset taken
  cases taken
  exact consistent.receive withoutReset

theorem insertAndTest_filters (seqNos : List (BitVec 16))
    (kept : Guarded (total receive) WithoutReset initial seqNos) :
    (run seqNos).FiltersNumber ∧ (run seqNos).acceptedNumbers.Nodup ∧
      (run seqNos).checker.mHighestSeqNo = BitVec.ofInt 16 (run seqNos).highest ∧
      ∀ reception ∈ (run seqNos).log, reception.seqNo = BitVec.ofInt 16 reception.number := by
  have consistent := consistent_run seqNos kept
  refine ⟨⟨?_, ?_⟩, consistent.acceptedNumbers_nodup, consistent.wrapped⟩
  · intro age bound
    rw [consistent.bits age, ← mem_acceptedNumbers]
    exact and_iff_right bound
  · intro seqNo withoutReset inside
    rw [consistent.refused_iff withoutReset inside, mem_acceptedNumbers]

theorem insertAndTest_filters_reordered :
    (run [65534, 1, 0, 65534]).FiltersNumber ∧ (run [65534, 1, 0, 65534]).acceptedNumbers.Nodup ∧
      (run [65534, 1, 0, 65534]).checker.mHighestSeqNo =
        BitVec.ofInt 16 (run [65534, 1, 0, 65534]).highest ∧
      ∀ reception ∈ (run [65534, 1, 0, 65534]).log,
        reception.seqNo = BitVec.ofInt 16 reception.number :=
  insertAndTest_filters [65534, 1, 0, 65534] (by decide)

def wrapRun : List (BitVec 16) :=
  (List.range 258).map (fun index => BitVec.ofNat 16 (255 * index)) ++ [10]

theorem insertAndTest_forgets_seqNo :
    ¬ ∀ seqNos, Guarded (total receive) WithoutReset initial seqNos →
      (run seqNos).FiltersSeqNo := by
  intro filters
  have wrapped := (filters wrapRun (by decide +kernel)).refused 0 (by decide +kernel)
    (by decide +kernel)
  revert wrapped
  decide +kernel

end Session

end FiberApp.Bandwidth
