import FiberApp.Foundation.Execution
import FiberApp.Codec.BaseVideoCodec

/-! The resize hysteresis over sequences of calls, each of whose sizes the
encoder adopts. -/

set_option autoImplicit false

namespace FiberApp.Codec

open Foundation

def FrameSize.area (size : FrameSize) : Nat := size.width.toNat * size.height.toNat

def TimeVal.total (time : TimeVal) : Int := time.sec * 1000 + time.msec

/-- What `pj_time_val_normalize` is documented to do, on a time that is not negative. -/
def Normalizes (normalize : TimeVal → TimeVal) : Prop :=
  ∀ time : TimeVal, 0 ≤ time.total →
    (normalize time).total = time.total ∧
      0 ≤ (normalize time).msec ∧ (normalize time).msec < 1000

theorem Normalizes.sec_lt_iff {normalize : TimeVal → TimeVal} (normalizes : Normalizes normalize)
    {left right : TimeVal} (ordered : right.total ≤ left.total) (seconds : Int) :
    (timeValSub normalize left right).sec < seconds ↔
      left.total - right.total < seconds * 1000 := by
  have difference : (TimeVal.mk (left.sec - right.sec) (left.msec - right.msec)).total =
      left.total - right.total := by
    simp only [TimeVal.total]
    omega
  obtain ⟨same, lower, upper⟩ := normalizes _ (difference.symm ▸ Int.sub_nonneg.mpr ordered)
  rw [difference, TimeVal.total] at same
  rw [timeValSub]
  omega

/-- The entry of a table that a target rate selects: the rate affords every
entry up to it, and the next one is above the rate or not below the limit. -/
structure Selects (capTable : CapTable) (limit : Int) (rateFactor : UInt32 → UInt32)
    (rateKbps : UInt32) (entry : Nat) : Prop where
  afforded : ∀ i, 1 ≤ i → i ≤ entry → rateFactor (capTable i).rate ≤ rateKbps
  within_limit : entry = 0 ∨ (entry : Int) < limit
  highest : (entry : Int) + 1 < limit → rateKbps < rateFactor (capTable (entry + 1)).rate

theorem Selects.unique {capTable : CapTable} {limit : Int} {rateFactor : UInt32 → UInt32}
    {rateKbps : UInt32} {first second : Nat}
    (selected : Selects capTable limit rateFactor rateKbps first)
    (other : Selects capTable limit rateFactor rateKbps second) : first = second := by
  have ordered : ∀ {low high : Nat}, Selects capTable limit rateFactor rateKbps low →
      Selects capTable limit rateFactor rateKbps high → ¬ low < high := by
    intro low high below above less
    have limited := above.within_limit
    have beyond := below.highest (by omega)
    exact absurd (above.afforded (low + 1) (by omega) less) (UInt32.not_le.mpr beyond)
  have notLess := ordered selected other
  have notMore := ordered other selected
  omega

theorem firstAbove_spec (capTable : CapTable) (rateFactor : UInt32 → UInt32)
    (rateKbps : UInt32) (i remaining : Nat) :
    i ≤ firstAbove capTable rateFactor rateKbps i remaining ∧
      firstAbove capTable rateFactor rateKbps i remaining ≤ i + remaining ∧
      (∀ j, i ≤ j → j < firstAbove capTable rateFactor rateKbps i remaining →
        rateFactor (capTable j).rate ≤ rateKbps) ∧
      (firstAbove capTable rateFactor rateKbps i remaining < i + remaining →
        rateKbps < rateFactor
          (capTable (firstAbove capTable rateFactor rateKbps i remaining)).rate) := by
  induction remaining generalizing i with
  | zero =>
      simp only [firstAbove]
      refine ⟨Nat.le_refl _, Nat.le_refl _, ?_, ?_⟩
      · intro j lower upper
        omega
      · intro less
        omega
  | succ remaining ih =>
      obtain ⟨lower, upper, afforded, above⟩ := ih (i + 1)
      by_cases stops : rateFactor (capTable i).rate > rateKbps
      · simp only [firstAbove, if_pos stops]
        refine ⟨Nat.le_refl _, by omega, ?_, fun _ => stops⟩
        intro j first last
        omega
      · simp only [firstAbove, if_neg stops]
        refine ⟨by omega, by omega, ?_, fun less => above (by omega)⟩
        intro j first last
        by_cases same : j = i
        · rw [same]
          exact UInt32.not_lt.mp stops
        · exact afforded j (by omega) last

/-- One call: the settings the encoder has for it, the clock, and its arguments. -/
structure ResizeCall where
  now : TimeVal
  rateKbps : UInt32
  rateFactor : UInt32 → UInt32
  dynamicMaxAllowedEntry : Int
  mediaIdx : MediaIndex
  source : SourceSize

namespace ResizeCall

def entry (call : ResizeCall) (capTable : CapTable) : Nat :=
  firstAbove capTable call.rateFactor call.rateKbps 1
    ((max 1 call.dynamicMaxAllowedEntry).toNat - 1) - 1

def SelectsEntry (call : ResizeCall) (capTable : CapTable) (entry : Nat) : Prop :=
  Selects capTable call.dynamicMaxAllowedEntry call.rateFactor call.rateKbps entry

theorem selects_entry (call : ResizeCall) (capTable : CapTable) :
    call.SelectsEntry capTable (call.entry capTable) := by
  obtain ⟨lower, upper, afforded, above⟩ :=
    firstAbove_spec capTable call.rateFactor call.rateKbps 1
      ((max 1 call.dynamicMaxAllowedEntry).toNat - 1)
  constructor
  · intro i first last
    rw [entry] at last
    exact afforded i first (by omega)
  · rw [entry]
    omega
  · intro below
    rw [entry] at below ⊢
    rw [Nat.sub_add_cancel lower]
    exact above (by omega)

theorem selectsEntry_iff {call : ResizeCall} {capTable : CapTable} {entry : Nat} :
    call.SelectsEntry capTable entry ↔ entry = call.entry capTable := by
  constructor
  · intro selected
    exact selected.unique (call.selects_entry capTable)
  · rintro rfl
    exact call.selects_entry capTable

end ResizeCall

namespace VideoEncoder

def configure (encoder : VideoEncoder) (call : ResizeCall) : VideoEncoder :=
  { encoder with
    dynamicMaxAllowedEntry := call.dynamicMaxAllowedEntry
    mediaIdx := call.mediaIdx
    source := call.source }

structure Ready (encoder : VideoEncoder) (capTable increaseTable : CapTable) : Prop where
  dynamicSize : encoder.dynamicSize = true
  dynamicCapTable : encoder.dynamicCapTable = some capTable
  increaseDynamicCapTable : encoder.increaseDynamicCapTable = some increaseTable
  hasBegunEncoding : encoder.hasBegunEncoding = true

def Holding (normalize : TimeVal → TimeVal) (encoder : VideoEncoder) (now : TimeVal) : Prop :=
  encoder.hasFrameSizeEverDecreased = true ∧
    (timeValSub normalize now encoder.timeOfLastResizeDown).sec < secondsBeforeResizeUp

instance (normalize : TimeVal → TimeVal) (encoder : VideoEncoder) (now : TimeVal) :
    Decidable (encoder.Holding normalize now) :=
  inferInstanceAs (Decidable (_ ∧ _))

end VideoEncoder

/-- What one call shows: its clock, the size before and the size it returns,
whether it decided to size up, and whether it updated the time of last resize-down. -/
structure ResizeRecord where
  now : TimeVal
  current : FrameSize
  returned : FrameSize
  sizedUp : Bool
  timeReset : Bool
  deriving DecidableEq

namespace VideoEncoder

variable (normalize : TimeVal → TimeVal)

def decidesUp (encoder : VideoEncoder) (call : ResizeCall) (log : List ResizeLog) : Bool :=
  decide ((encoder.getTableSize encoder.dynamicCapTable call.rateKbps
      call.rateFactor).2.size.pixels > encoder.size.pixels) &&
    !log.any fun
      | .increaseHeld _ _ => true
      | _ => false

def resize (encoder : VideoEncoder) (call : ResizeCall) : VideoEncoder × ResizeRecord :=
  let encoder := encoder.configure call
  let (next, frame, log) :=
    encoder.getDynamicSize normalize call.now call.rateKbps call.rateFactor
  ({ next with size := frame.size },
    ⟨call.now, encoder.size, frame.size, encoder.decidesUp call log,
      log.contains .timeReset⟩)

def step (encoder : VideoEncoder) (call : ResizeCall) : VideoEncoder :=
  (encoder.resize normalize call).1

def records : VideoEncoder → List ResizeCall → List ResizeRecord
  | _, [] => []
  | encoder, call :: rest =>
      (encoder.resize normalize call).2 :: records (encoder.step normalize call) rest

variable {normalize : TimeVal → TimeVal} {capTable increaseTable : CapTable}

def tableSize (encoder : VideoEncoder) (call : ResizeCall) (capTable : CapTable) : FrameSize :=
  encoder.entrySize (capTable (call.entry capTable))

def fitted (encoder : VideoEncoder) (call : ResizeCall) (size : FrameSize) : FrameSize :=
  (encoder.configure call).fitToSource size

def limited (encoder : VideoEncoder) (call : ResizeCall) : VideoEncoder :=
  { encoder.configure call with
    dynamicMaxAllowedEntry := max 1 call.dynamicMaxAllowedEntry }

theorem getTableSize_configure (encoder : VideoEncoder) (call : ResizeCall)
    (capTable : CapTable) :
    (encoder.configure call).getTableSize (some capTable) call.rateKbps call.rateFactor =
      (encoder.limited call, ⟨encoder.tableSize call capTable, encoder.maxFrameRate⟩) := rfl

theorem getTableSize_limited (encoder : VideoEncoder) (call : ResizeCall)
    (capTable : CapTable) :
    (encoder.limited call).getTableSize (some capTable) call.rateKbps call.rateFactor =
      (encoder.limited call, ⟨encoder.tableSize call capTable, encoder.maxFrameRate⟩) := by
  have again : max 1 (max 1 call.dynamicMaxAllowedEntry) = max 1 call.dynamicMaxAllowedEntry :=
    by omega
  simp only [getTableSize, limited, again]
  rfl

theorem applyHysteresis_limited (normalize : TimeVal → TimeVal) {encoder : VideoEncoder}
    (ready : encoder.Ready capTable increaseTable) (call : ResizeCall) :
    (encoder.limited call).applyHysteresis normalize call.now call.rateKbps call.rateFactor
        ⟨encoder.tableSize call capTable, encoder.maxFrameRate⟩ =
      if encoder.hasFrameSizeEverDecreased = true ∧
          encoder.size.pixels < (encoder.tableSize call capTable).pixels then
        if encoder.Holding normalize call.now then
          (encoder.limited call, ⟨encoder.size, encoder.maxFrameRate⟩,
            [.increaseHeld (encoder.tableSize call capTable)
              (timeValSub normalize call.now encoder.timeOfLastResizeDown).sec])
        else
          (encoder.limited call, ⟨encoder.tableSize call increaseTable, encoder.maxFrameRate⟩, [])
      else if (encoder.tableSize call capTable).pixels < encoder.size.pixels then
        ({ encoder.limited call with
            hasFrameSizeEverDecreased := true
            timeOfLastResizeDown := call.now },
          ⟨encoder.tableSize call capTable, encoder.maxFrameRate⟩,
          if encoder.hasFrameSizeEverDecreased then [.timeReset]
          else [.firstDecrease, .timeReset])
      else
        (encoder.limited call, ⟨encoder.tableSize call capTable, encoder.maxFrameRate⟩, []) := by
  have alternate : (encoder.limited call).increaseDynamicCapTable = some increaseTable :=
    ready.increaseDynamicCapTable
  have begun : (encoder.limited call).hasBegunEncoding = true := ready.hasBegunEncoding
  cases ever : encoder.hasFrameSizeEverDecreased with
  | false =>
      have same : (encoder.limited call).hasFrameSizeEverDecreased = false := ever
      simp [applyHysteresis, alternate, begun, same]
      rfl
  | true =>
      have same : (encoder.limited call).hasFrameSizeEverDecreased = true := ever
      simp [applyHysteresis, alternate, begun, same, Holding, ever, getTableSize_limited]
      rfl

theorem getDynamicSize_ready {encoder : VideoEncoder}
    (ready : encoder.Ready capTable increaseTable) (call : ResizeCall)
    {next : VideoEncoder} {proposed : Frame} {log : List ResizeLog}
    (outcome : (encoder.limited call).applyHysteresis normalize call.now call.rateKbps
      call.rateFactor ⟨encoder.tableSize call capTable, encoder.maxFrameRate⟩ =
        (next, proposed, log)) :
    (encoder.configure call).getDynamicSize normalize call.now call.rateKbps call.rateFactor =
      (next, { proposed with size := next.fitToSource proposed.size }, log) := by
  have enabled : (encoder.configure call).dynamicSize = true := ready.dynamicSize
  have mainTable : (encoder.configure call).dynamicCapTable = some capTable :=
    ready.dynamicCapTable
  simp only [getDynamicSize, enabled, mainTable, ↓reduceIte, getTableSize_configure, outcome]

theorem resize_ready {encoder : VideoEncoder}
    (ready : encoder.Ready capTable increaseTable) (call : ResizeCall)
    {next : VideoEncoder} {proposed : Frame} {log : List ResizeLog}
    (outcome : (encoder.limited call).applyHysteresis normalize call.now call.rateKbps
      call.rateFactor ⟨encoder.tableSize call capTable, encoder.maxFrameRate⟩ =
        (next, proposed, log)) :
    encoder.resize normalize call =
      ({ next with size := next.fitToSource proposed.size },
        ⟨call.now, encoder.size, next.fitToSource proposed.size,
          decide (encoder.size.pixels < (encoder.tableSize call capTable).pixels) &&
            !log.any fun
              | .increaseHeld _ _ => true
              | _ => false,
          log.contains .timeReset⟩) := by
  have mainTable : (encoder.configure call).dynamicCapTable = some capTable :=
    ready.dynamicCapTable
  simp only [resize, getDynamicSize_ready ready call outcome, decidesUp, mainTable,
    getTableSize_configure]
  rfl

theorem resize_cases (normalize : TimeVal → TimeVal) {encoder : VideoEncoder}
    (ready : encoder.Ready capTable increaseTable) (call : ResizeCall) :
    (encoder.step normalize call).Ready capTable increaseTable ∧
      ((encoder.tableSize call capTable).pixels < encoder.size.pixels ∧
          (encoder.step normalize call).hasFrameSizeEverDecreased = true ∧
          (encoder.step normalize call).timeOfLastResizeDown = call.now ∧
          (encoder.resize normalize call).2 = ⟨call.now, encoder.size,
            encoder.fitted call (encoder.tableSize call capTable), false, true⟩ ∨
        ¬ (encoder.tableSize call capTable).pixels < encoder.size.pixels ∧
          (encoder.step normalize call).hasFrameSizeEverDecreased =
            encoder.hasFrameSizeEverDecreased ∧
          (encoder.step normalize call).timeOfLastResizeDown = encoder.timeOfLastResizeDown ∧
          (encoder.size.pixels < (encoder.tableSize call capTable).pixels ∧
              encoder.Holding normalize call.now ∧
              (encoder.resize normalize call).2 = ⟨call.now, encoder.size,
                encoder.fitted call encoder.size, false, false⟩ ∨
            encoder.size.pixels < (encoder.tableSize call capTable).pixels ∧
              ¬ encoder.Holding normalize call.now ∧
              (encoder.resize normalize call).2 = ⟨call.now, encoder.size,
                encoder.fitted call (encoder.tableSize call
                  (if encoder.hasFrameSizeEverDecreased then increaseTable else capTable)),
                true, false⟩ ∨
            ¬ encoder.size.pixels < (encoder.tableSize call capTable).pixels ∧
              (encoder.resize normalize call).2 = ⟨call.now, encoder.size,
                encoder.fitted call (encoder.tableSize call capTable), false, false⟩)) := by
  have outcome := applyHysteresis_limited normalize ready call
  by_cases smaller : (encoder.tableSize call capTable).pixels < encoder.size.pixels
  · have notLarger : ¬ encoder.size.pixels < (encoder.tableSize call capTable).pixels :=
      UInt32.not_lt.mpr (UInt32.le_of_lt smaller)
    rw [if_neg (fun larger => notLarger larger.2), if_pos smaller] at outcome
    rw [step, resize_ready ready call outcome]
    refine ⟨⟨ready.1, ready.2, ready.3, ready.4⟩, .inl ⟨smaller, rfl, rfl, ?_⟩⟩
    rw [decide_eq_false notLarger]
    cases encoder.hasFrameSizeEverDecreased <;> rfl
  · by_cases larger : encoder.size.pixels < (encoder.tableSize call capTable).pixels
    · by_cases holding : encoder.Holding normalize call.now
      · rw [if_pos ⟨holding.1, larger⟩, if_pos holding] at outcome
        rw [step, resize_ready ready call outcome]
        refine ⟨⟨ready.1, ready.2, ready.3, ready.4⟩,
          .inr ⟨smaller, rfl, rfl, .inl ⟨larger, holding, ?_⟩⟩⟩
        rw [decide_eq_true larger]
        rfl
      · cases ever : encoder.hasFrameSizeEverDecreased with
        | false =>
            rw [ever, if_neg (fun both => Bool.noConfusion both.1), if_neg smaller] at outcome
            rw [step, resize_ready ready call outcome]
            refine ⟨⟨ready.1, ready.2, ready.3, ready.4⟩,
              .inr ⟨smaller, ever, rfl, .inr (.inl ⟨larger, holding, ?_⟩)⟩⟩
            rw [decide_eq_true larger]
            rfl
        | true =>
            rw [if_pos ⟨ever, larger⟩, if_neg holding] at outcome
            rw [step, resize_ready ready call outcome]
            refine ⟨⟨ready.1, ready.2, ready.3, ready.4⟩,
              .inr ⟨smaller, ever, rfl, .inr (.inl ⟨larger, holding, ?_⟩)⟩⟩
            rw [decide_eq_true larger]
            rfl
    · rw [if_neg (fun both => larger both.2), if_neg smaller] at outcome
      rw [step, resize_ready ready call outcome]
      refine ⟨⟨ready.1, ready.2, ready.3, ready.4⟩,
        .inr ⟨smaller, rfl, rfl, .inr (.inr ⟨larger, ?_⟩)⟩⟩
      rw [decide_eq_false larger]
      rfl

theorem step_time (normalize : TimeVal → TimeVal) {encoder : VideoEncoder}
    (ready : encoder.Ready capTable increaseTable) (call : ResizeCall) :
    ((encoder.resize normalize call).2.timeReset = true ∧
        (encoder.step normalize call).hasFrameSizeEverDecreased = true ∧
        (encoder.step normalize call).timeOfLastResizeDown = call.now) ∨
      ((encoder.resize normalize call).2.timeReset = false ∧
        (encoder.step normalize call).hasFrameSizeEverDecreased =
          encoder.hasFrameSizeEverDecreased ∧
        (encoder.step normalize call).timeOfLastResizeDown = encoder.timeOfLastResizeDown) := by
  obtain ⟨-, ⟨-, ever, last, record⟩ | ⟨-, ever, last, outcome⟩⟩ :=
    resize_cases normalize ready call
  · exact .inl ⟨by rw [record], ever, last⟩
  · refine .inr ⟨?_, ever, last⟩
    rcases outcome with ⟨-, -, record⟩ | ⟨-, -, record⟩ | ⟨-, record⟩
    · rw [record]
    · rw [record]
    · rw [record]

/-- The sizes of one call agree with what the encoder does in it: the aspect
ratio of the source leaves a smaller table size smaller, keeps a size that is
held or, while increases are held, a table size of the current area, and makes
no other size smaller than the current one. -/
structure Steady (normalize : TimeVal → TimeVal) (capTable increaseTable : CapTable)
    (encoder : VideoEncoder) (call : ResizeCall) : Prop where
  down : ∀ entry, call.SelectsEntry capTable entry →
    (encoder.entrySize (capTable entry)).pixels < encoder.size.pixels →
      (encoder.fitted call (encoder.entrySize (capTable entry))).area < encoder.size.area
  hold : ∀ entry, call.SelectsEntry capTable entry →
    encoder.size.pixels < (encoder.entrySize (capTable entry)).pixels →
      encoder.Holding normalize call.now →
        (encoder.fitted call encoder.size).area = encoder.size.area
  up : ∀ entry, call.SelectsEntry capTable entry →
    encoder.size.pixels < (encoder.entrySize (capTable entry)).pixels →
      ¬ encoder.Holding normalize call.now →
        ∀ table, table = (if encoder.hasFrameSizeEverDecreased then increaseTable else capTable) →
          ∀ taken, call.SelectsEntry table taken →
            encoder.size.area ≤
              (encoder.fitted call (encoder.entrySize (table taken))).area
  same : ∀ entry, call.SelectsEntry capTable entry →
    (encoder.entrySize (capTable entry)).pixels = encoder.size.pixels →
      encoder.size.area ≤ (encoder.fitted call (encoder.entrySize (capTable entry))).area ∧
        (encoder.Holding normalize call.now →
          (encoder.fitted call (encoder.entrySize (capTable entry))).area = encoder.size.area)

theorem steady_iff {encoder : VideoEncoder} {call : ResizeCall} :
    encoder.Steady normalize capTable increaseTable call ↔
      ((encoder.tableSize call capTable).pixels < encoder.size.pixels →
        (encoder.fitted call (encoder.tableSize call capTable)).area < encoder.size.area) ∧
      (encoder.size.pixels < (encoder.tableSize call capTable).pixels →
        encoder.Holding normalize call.now →
          (encoder.fitted call encoder.size).area = encoder.size.area) ∧
      (encoder.size.pixels < (encoder.tableSize call capTable).pixels →
        ¬ encoder.Holding normalize call.now →
          encoder.size.area ≤ (encoder.fitted call (encoder.tableSize call
            (if encoder.hasFrameSizeEverDecreased then increaseTable else capTable))).area) ∧
      ((encoder.tableSize call capTable).pixels = encoder.size.pixels →
        encoder.size.area ≤ (encoder.fitted call (encoder.tableSize call capTable)).area ∧
          (encoder.Holding normalize call.now →
            (encoder.fitted call (encoder.tableSize call capTable)).area =
              encoder.size.area)) := by
  have selected := call.selects_entry capTable
  constructor
  · intro steady
    exact ⟨steady.down _ selected, steady.hold _ selected,
      fun larger free => steady.up _ selected larger free _ rfl _ (call.selects_entry _),
      steady.same _ selected⟩
  · intro bounds
    obtain ⟨down, hold, up, same⟩ := bounds
    constructor
    · intro entry chosen
      rw [ResizeCall.selectsEntry_iff.mp chosen]
      exact down
    · intro entry chosen
      rw [ResizeCall.selectsEntry_iff.mp chosen]
      exact hold
    · intro entry chosen larger free table source taken other
      rw [ResizeCall.selectsEntry_iff.mp chosen] at larger
      rw [ResizeCall.selectsEntry_iff.mp other, source]
      exact up larger free
    · intro entry chosen
      rw [ResizeCall.selectsEntry_iff.mp chosen]
      exact same

instance (encoder : VideoEncoder) (call : ResizeCall) :
    Decidable (encoder.Steady normalize capTable increaseTable call) :=
  decidable_of_iff _ steady_iff.symm

end VideoEncoder

/-- The three laws for one call, where `holding` says that it comes too soon
after a decrease. -/
structure ResizeRecord.Lawful (record : ResizeRecord) (holding : Prop) : Prop where
  marked : record.timeReset = true ↔ record.returned.area < record.current.area
  raised : record.sizedUp = true → record.current.area ≤ record.returned.area
  held : holding → record.returned.area ≤ record.current.area

namespace VideoEncoder

theorem steady_iff_lawful {normalize : TimeVal → TimeVal} {capTable increaseTable : CapTable}
    {encoder : VideoEncoder} (ready : encoder.Ready capTable increaseTable)
    (call : ResizeCall) :
    encoder.Steady normalize capTable increaseTable call ↔
      (encoder.resize normalize call).2.Lawful (encoder.Holding normalize call.now) := by
  rw [steady_iff]
  obtain ⟨-, ⟨smaller, -, -, record⟩ | ⟨notSmaller, -, -, outcome⟩⟩ :=
    resize_cases normalize ready call
  · have notLarger := UInt32.not_lt.mpr (UInt32.le_of_lt smaller)
    have notEqual := UInt32.ne_of_lt smaller
    rw [record]
    constructor
    · intro bounds
      obtain ⟨down, -⟩ := bounds
      have shrinks := down smaller
      exact ⟨⟨fun _ => shrinks, fun _ => rfl⟩, fun raised => absurd raised Bool.false_ne_true,
        fun _ => Nat.le_of_lt shrinks⟩
    · intro lawful
      exact ⟨fun _ => lawful.marked.mp rfl, fun larger => absurd larger notLarger,
        fun larger => absurd larger notLarger, fun equal => absurd equal notEqual⟩
  · rcases outcome with ⟨larger, holding, record⟩ | ⟨larger, free, record⟩ | ⟨notLarger, record⟩
    · have notEqual := UInt32.ne_of_lt larger
      rw [record]
      constructor
      · intro bounds
        obtain ⟨-, hold, -⟩ := bounds
        have kept := hold larger holding
        exact ⟨⟨fun marked => absurd marked Bool.false_ne_true,
          fun shrinks => absurd kept (Nat.ne_of_lt shrinks)⟩,
          fun raised => absurd raised Bool.false_ne_true, fun _ => Nat.le_of_eq kept⟩
      · intro lawful
        have notShrunk := mt lawful.marked.mpr Bool.false_ne_true
        exact ⟨fun smaller => absurd smaller notSmaller,
          fun _ _ => Nat.le_antisymm (lawful.held holding) (Nat.not_lt.mp notShrunk),
          fun _ free => absurd holding free, fun equal => absurd equal.symm notEqual⟩
    · have notEqual := UInt32.ne_of_lt larger
      rw [record]
      constructor
      · intro bounds
        obtain ⟨-, -, up, -⟩ := bounds
        have grows := up larger free
        exact ⟨⟨fun marked => absurd marked Bool.false_ne_true,
          fun shrinks => absurd grows (Nat.not_le.mpr shrinks)⟩, fun _ => grows,
          fun holding => absurd holding free⟩
      · intro lawful
        exact ⟨fun smaller => absurd smaller notSmaller, fun _ holding => absurd holding free,
          fun _ _ => lawful.raised rfl, fun equal => absurd equal.symm notEqual⟩
    · have equal := UInt32.le_antisymm (UInt32.not_lt.mp notLarger) (UInt32.not_lt.mp notSmaller)
      rw [record]
      constructor
      · intro bounds
        obtain ⟨-, -, -, same⟩ := bounds
        obtain ⟨atLeast, kept⟩ := same equal
        exact ⟨⟨fun marked => absurd marked Bool.false_ne_true,
          fun shrinks => absurd atLeast (Nat.not_le.mpr shrinks)⟩,
          fun raised => absurd raised Bool.false_ne_true,
          fun holding => Nat.le_of_eq (kept holding)⟩
      · intro lawful
        have atLeast := Nat.not_lt.mp (mt lawful.marked.mpr Bool.false_ne_true)
        exact ⟨fun smaller => absurd smaller notSmaller, fun larger => absurd larger notLarger,
          fun larger => absurd larger notLarger,
          fun _ => ⟨atLeast, fun holding => Nat.le_antisymm (lawful.held holding) atLeast⟩⟩

end VideoEncoder

structure Hysteresis (records : List ResizeRecord) : Prop where
  held : records.Pairwise fun earlier later =>
    earlier.returned.area < earlier.current.area →
      later.now.total - earlier.now.total < secondsBeforeResizeUp * 1000 →
        later.returned.area ≤ later.current.area
  marked : ∀ record ∈ records,
    record.timeReset = true ↔ record.returned.area < record.current.area
  raised : ∀ record ∈ records,
    record.sizedUp = true → record.current.area ≤ record.returned.area

namespace VideoEncoder

variable {normalize : TimeVal → TimeVal} {capTable increaseTable : CapTable}

theorem record_now (encoder : VideoEncoder) (call : ResizeCall) :
    (encoder.resize normalize call).2.now = call.now := rfl

theorem records_held (normalizes : Normalizes normalize) {encoder : VideoEncoder}
    (ready : encoder.Ready capTable increaseTable) {calls : List ResizeCall}
    (steady : Guarded (total (step normalize)) (Steady normalize capTable increaseTable)
      encoder calls)
    (clock : calls.Pairwise fun earlier later => earlier.now.total ≤ later.now.total)
    (ever : encoder.hasFrameSizeEverDecreased = true) {since : Int}
    (reset : since ≤ encoder.timeOfLastResizeDown.total)
    (after : ∀ call ∈ calls, encoder.timeOfLastResizeDown.total ≤ call.now.total) :
    ∀ record ∈ encoder.records normalize calls,
      record.now.total - since < secondsBeforeResizeUp * 1000 →
        record.returned.area ≤ record.current.area := by
  induction calls generalizing encoder with
  | nil =>
      intro record member
      cases member
  | cons call rest ih =>
      obtain ⟨now, later⟩ := List.pairwise_cons.mp clock
      have afterCall := after call List.mem_cons_self
      have lawful := (steady_iff_lawful ready call).mp steady.1
      intro record member soon
      rcases List.mem_cons.mp member with rfl | member
      · apply lawful.held
        refine ⟨ever, (normalizes.sec_lt_iff afterCall _).mpr ?_⟩
        rw [record_now] at soon
        omega
      · have nextReady := (resize_cases normalize ready call).1
        rcases step_time normalize ready call with
          ⟨-, nextEver, last⟩ | ⟨-, nextEver, last⟩
        · exact ih nextReady (steady.2 _ rfl) later nextEver (by rw [last]; omega)
            (by rw [last]; exact now) record member soon
        · exact ih nextReady (steady.2 _ rfl) later (nextEver.trans ever) (by rw [last]; omega)
            (fun other found => by rw [last]; exact after other (List.mem_cons_of_mem _ found))
            record member soon

theorem hysteresis_of_steady (normalizes : Normalizes normalize) {encoder : VideoEncoder}
    (ready : encoder.Ready capTable increaseTable) {calls : List ResizeCall}
    (clock : calls.Pairwise fun earlier later => earlier.now.total ≤ later.now.total)
    (steady : Guarded (total (step normalize)) (Steady normalize capTable increaseTable)
      encoder calls) : Hysteresis (encoder.records normalize calls) := by
  induction calls generalizing encoder with
  | nil => exact ⟨.nil, by simp [records], by simp [records]⟩
  | cons call rest ih =>
      obtain ⟨now, later⟩ := List.pairwise_cons.mp clock
      have nextReady := (resize_cases normalize ready call).1
      have nextSteady := steady.2 _ rfl
      have lawful := (steady_iff_lawful ready call).mp steady.1
      obtain ⟨held, marked, raised⟩ := ih nextReady later nextSteady
      refine ⟨List.pairwise_cons.mpr ⟨?_, held⟩, List.forall_mem_cons.mpr ⟨lawful.marked, marked⟩,
        List.forall_mem_cons.mpr ⟨lawful.raised, raised⟩⟩
      intro record member shrinks
      have reset := lawful.marked.mpr shrinks
      rcases step_time normalize ready call with ⟨-, ever, last⟩ | ⟨kept, -⟩
      · exact records_held normalizes nextReady nextSteady later ever
          (by rw [last]; exact Int.le_refl _)
          (by rw [last]; exact now) record member
      · exact absurd (reset.symm.trans kept) Bool.noConfusion

/-- The condition is necessary as well, as long as the calls obey the last
decrease before them, if there was one. -/
theorem steady_of_hysteresis (normalizes : Normalizes normalize) {encoder : VideoEncoder}
    (ready : encoder.Ready capTable increaseTable) {calls : List ResizeCall}
    (clock : calls.Pairwise fun earlier later => earlier.now.total ≤ later.now.total)
    (after : encoder.hasFrameSizeEverDecreased = true →
      ∀ call ∈ calls, encoder.timeOfLastResizeDown.total ≤ call.now.total)
    (obeyed : encoder.hasFrameSizeEverDecreased = true →
      ∀ record ∈ encoder.records normalize calls,
        record.now.total - encoder.timeOfLastResizeDown.total < secondsBeforeResizeUp * 1000 →
          record.returned.area ≤ record.current.area)
    (hysteresis : Hysteresis (encoder.records normalize calls)) :
    Guarded (total (step normalize)) (Steady normalize capTable increaseTable)
      encoder calls := by
  induction calls generalizing encoder with
  | nil => trivial
  | cons call rest ih =>
      obtain ⟨now, later⟩ := List.pairwise_cons.mp clock
      have nextReady := (resize_cases normalize ready call).1
      obtain ⟨held, nextHeld⟩ := List.pairwise_cons.mp hysteresis.held
      obtain ⟨marked, nextMarked⟩ := List.forall_mem_cons.mp hysteresis.marked
      obtain ⟨raised, nextRaised⟩ := List.forall_mem_cons.mp hysteresis.raised
      have lawful : (encoder.resize normalize call).2.Lawful
          (encoder.Holding normalize call.now) := by
        refine ⟨marked, raised, fun holding => ?_⟩
        exact obeyed holding.1 _ List.mem_cons_self
          ((normalizes.sec_lt_iff (after holding.1 call List.mem_cons_self) _).mp holding.2)
      refine ⟨(steady_iff_lawful ready call).mpr lawful, fun next taken => ?_⟩
      cases taken
      apply ih nextReady later _ _ ⟨nextHeld, nextMarked, nextRaised⟩
      · intro ever
        rcases step_time normalize ready call with ⟨-, -, last⟩ | ⟨-, same, last⟩
        · rw [last]
          exact now
        · rw [last]
          exact fun other found =>
            after (same.symm.trans ever) other (List.mem_cons_of_mem _ found)
      · intro ever
        rcases step_time normalize ready call with ⟨reset, -, last⟩ | ⟨-, same, last⟩
        · rw [last]
          exact fun record member => held record member (marked.mp reset)
        · rw [last]
          exact fun record member =>
            obeyed (same.symm.trans ever) record (List.mem_cons_of_mem _ member)

/-- In every run of steady calls the hysteresis holds, and in a run that starts
before the first decrease it holds in no other. -/
theorem records_hysteresis (normalizes : Normalizes normalize) {encoder : VideoEncoder}
    (ready : encoder.Ready capTable increaseTable) {calls : List ResizeCall}
    (clock : calls.Pairwise fun earlier later => earlier.now.total ≤ later.now.total) :
    (Guarded (total (step normalize)) (Steady normalize capTable increaseTable) encoder calls →
      Hysteresis (encoder.records normalize calls)) ∧
    (encoder.hasFrameSizeEverDecreased = false →
      Hysteresis (encoder.records normalize calls) →
        Guarded (total (step normalize)) (Steady normalize capTable increaseTable)
          encoder calls) := by
  refine ⟨hysteresis_of_steady normalizes ready clock, fun fresh => ?_⟩
  have never : encoder.hasFrameSizeEverDecreased ≠ true := by simp [fresh]
  exact steady_of_hysteresis normalizes ready clock (fun ever => absurd ever never)
    (fun ever => absurd ever never)

def carrySeconds (time : TimeVal) : TimeVal :=
  ⟨time.total / 1000, time.total % 1000⟩

theorem normalizes_carrySeconds : Normalizes carrySeconds := by
  intro time nonnegative
  simp only [carrySeconds, TimeVal.total]
  omega

/-- The entries of a list, with the last one repeated behind it. -/
def capTableOf (caps : List DynamicCap) (last : DynamicCap) : CapTable :=
  fun i => caps.getD i last

def Ascending (capTable : CapTable) (entries : Nat) : Prop :=
  ∀ later < entries, ∀ earlier < later,
    (capTable earlier).rate < (capTable later).rate ∧
      (FrameSize.mk (capTable earlier).width (capTable earlier).height).area <
        (FrameSize.mk (capTable later).width (capTable later).height).area

instance (capTable : CapTable) (entries : Nat) : Decidable (Ascending capTable entries) :=
  inferInstanceAs (Decidable (∀ later < entries, ∀ earlier < later, _))

def mainTable : CapTable := capTableOf [⟨100, 320, 180⟩, ⟨400, 640, 360⟩] ⟨1000, 1280, 720⟩

def alternateTable : CapTable := capTableOf [⟨100, 320, 180⟩, ⟨600, 640, 360⟩] ⟨1400, 1280, 720⟩

def landscape : SourceSize := ⟨1920, 1080, by decide⟩

def portrait : SourceSize := ⟨480, 1920, by decide⟩

def streaming : VideoEncoder where
  dynamicSize := true
  dynamicCapTable := some mainTable
  increaseDynamicCapTable := some alternateTable
  hasFrameSizeEverDecreased := false
  timeOfLastResizeDown := ⟨0, 0⟩
  hasBegunEncoding := true
  dynamicMaxAllowedEntry := 3
  rotated := false
  maxFrameRate := 30
  mediaIdx := .content
  source := landscape
  size := ⟨640, 360⟩
  framerate := 30

def contentCall (sec : Int) (rateKbps : UInt32) (source : SourceSize) : ResizeCall :=
  ⟨⟨sec, 0⟩, rateKbps, id, 3, .content, source⟩

theorem ready_streaming : streaming.Ready mainTable alternateTable := ⟨rfl, rfl, rfl, rfl⟩

theorem records_hysteresis_landscape :
    Hysteresis (streaming.records carrySeconds
      [contentCall 100 200 landscape, contentCall 110 700 landscape,
        contentCall 115 700 landscape]) :=
  (records_hysteresis normalizes_carrySeconds ready_streaming (by decide)).1 (by decide +kernel)

/-- The source turns to portrait: the call decides to size up, returns a smaller
size without marking the time, and the next call one second later doubles it. -/
theorem records_portrait_shrinks :
    Ascending mainTable 3 ∧ Ascending alternateTable 3 ∧
      streaming.Ready mainTable alternateTable ∧
      (let records := streaming.records carrySeconds
        [contentCall 100 2000 portrait, contentCall 101 2000 landscape]
      records.map (fun record => (record.current, record.returned, record.sizedUp,
          record.timeReset)) =
        [(⟨640, 360⟩, ⟨180, 720⟩, true, false), (⟨180, 720⟩, ⟨1280, 720⟩, true, false)] ∧
      ¬ Hysteresis records) := by
  refine ⟨by decide, by decide, ready_streaming, by decide +kernel, fun hysteresis => ?_⟩
  have unmarked := hysteresis.marked _ List.mem_cons_self
  revert unmarked
  decide +kernel

end VideoEncoder

end FiberApp.Codec
