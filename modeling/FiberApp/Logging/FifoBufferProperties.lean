import FiberApp.Foundation.Execution
import FiberApp.Logging.FifoBuffer

/-! `FifoBuffer` is a bounded queue of bytes: whatever calls are made on it, its answers are
those of a plain list with a number of free places. -/

set_option autoImplicit false

namespace FiberApp.Logging

open FiberApp.Foundation

/-- The queue that the circular buffer stands for. `spare` has the bytes that lie in the
free places, in the order in which the places fill up. -/
structure ByteQueue where
  state : StreamState
  contents : List UInt8
  spare : List UInt8
  file : FileStream

namespace ByteQueue

def capacity (queue : ByteQueue) : Nat := queue.contents.length + queue.spare.length

def setCapacity (queue : ByteQueue) (memory : List UInt8) : ByteQueue × Answer :=
  if memory.length < queue.contents.length then (queue, { Answer.done with returned := false })
  else if memory.length = queue.capacity then (queue, Answer.done)
  else ({ queue with spare := memory.drop queue.contents.length }, Answer.done)

def readOffset (platform : Platform) (queue : ByteQueue) (target : List UInt8) (offset : Nat) :
    ByteQueue × Answer :=
  if queue.contents.length ≤ offset then
    (queue, { Answer.done with
      result := if queue.state = .ssClosed then .srEos else .srBlock
      bytes := target })
  else
    let copied := (queue.contents.drop offset).take target.length
    let filled := copied ++ target.drop copied.length
    let (file, _, written) := queue.file.write platform filled
    ({ queue with file := file },
      { Answer.done with count := some (written.getD copied.length), bytes := filled })

def writeOffset (queue : ByteQueue) (bytes : List UInt8) (offset : Nat) : ByteQueue × Answer :=
  if queue.state = .ssClosed then (queue, { Answer.done with result := .srEos })
  else if queue.spare.length ≤ offset then (queue, { Answer.done with result := .srBlock })
  else
    let accepted := bytes.take (queue.spare.length - offset)
    ({ queue with spare := overwrite queue.spare offset accepted },
      { Answer.done with count := some accepted.length })

def consume (queue : ByteQueue) (size : Nat) : ByteQueue :=
  { queue with
    contents := queue.contents.drop size
    spare := queue.spare ++ queue.contents.take size }

def produce (queue : ByteQueue) (size : Nat) : ByteQueue :=
  { queue with
    contents := queue.contents ++ queue.spare.take size
    spare := queue.spare.drop size }

def consumeReadData (queue : ByteQueue) (size : Nat) : ByteQueue × Answer :=
  (queue.consume size,
    { Answer.done with posted := if queue.spare = [] ∧ 0 < size then [.seWrite] else [] })

def consumeWriteBuffer (queue : ByteQueue) (size : Nat) : ByteQueue × Answer :=
  (queue.produce size,
    { Answer.done with posted := if queue.contents = [] ∧ 0 < size then [.seRead] else [] })

def read (platform : Platform) (queue : ByteQueue) (target : List UInt8) : ByteQueue × Answer :=
  let (after, answer) := queue.readOffset platform target 0
  match answer.result, answer.count with
  | .srSuccess, some copy =>
      let (left, consumed) := after.consumeReadData copy
      (left, { answer with posted := consumed.posted })
  | _, _ => (after, answer)

def write (queue : ByteQueue) (bytes : List UInt8) : ByteQueue × Answer :=
  let (after, answer) := queue.writeOffset bytes 0
  match answer.result, answer.count with
  | .srSuccess, some copy =>
      let (left, produced) := after.consumeWriteBuffer copy
      (left, { answer with posted := produced.posted })
  | .srBlock, _ => (after, { answer with posted := [.seRead] })
  | _, _ => (after, answer)

/-- What a call may answer and leave. Only the two calls that hand out a piece of memory
depend on where in the buffer the bytes lie. -/
def Allows (platform : Platform) (queue : ByteQueue) (answer : Answer) (next : ByteQueue) :
    FifoBuffer.Call → Prop
  | .getBuffered =>
      (next, answer) = (queue, { Answer.done with count := some queue.contents.length })
  | .getWriteRemaining =>
      (next, answer) = (queue, { Answer.done with count := some queue.spare.length })
  | .setCapacity memory => (next, answer) = queue.setCapacity memory
  | .readOffset target offset => (next, answer) = queue.readOffset platform target offset
  | .writeOffset bytes offset => (next, answer) = queue.writeOffset bytes offset
  | .read target => (next, answer) = queue.read platform target
  | .write bytes => (next, answer) = queue.write bytes
  | .close => (next, answer) = ({ queue with state := .ssClosed }, Answer.done)
  | .getReadData =>
      next = queue ∧ answer = { Answer.done with bytes := answer.bytes } ∧
        answer.bytes <+: queue.contents ∧ (answer.bytes = [] → queue.contents = [])
  | .consumeReadData size =>
      size ≤ queue.contents.length ∧ (next, answer) = queue.consumeReadData size
  | .getWriteBuffer =>
      answer = { Answer.done with count := answer.count } ∧
        next.contents = queue.contents ∧ next.state = queue.state ∧ next.file = queue.file ∧
          next.spare ~r queue.spare ∧ (queue.contents ≠ [] → next.spare = queue.spare) ∧
            (answer.count = none ↔ queue.state = .ssClosed) ∧
              ∀ size ∈ answer.count,
                if queue.contents = [] then size = queue.capacity
                else queue.spare ≠ [] → 0 < size ∧ size ≤ queue.spare.length
  | .fillWriteBuffer bytes =>
      bytes.length ≤ queue.spare.length ∧
        (next, answer) = ({ queue with spare := overwrite queue.spare 0 bytes }, Answer.done)
  | .consumeWriteBuffer size =>
      size ≤ queue.spare.length ∧ (next, answer) = queue.consumeWriteBuffer size

/-- A write with room appends what fits. -/
theorem write_of_room {queue : ByteQueue} {bytes : List UInt8} (opened : queue.state ≠ .ssClosed)
    (room : queue.spare ≠ []) :
    queue.write bytes =
      ({ queue with
          contents := queue.contents ++ bytes.take queue.spare.length
          spare := queue.spare.drop (bytes.take queue.spare.length).length },
        { Answer.done with
            count := some (bytes.take queue.spare.length).length
            posted := if queue.contents = [] ∧ 0 < (bytes.take queue.spare.length).length then
              [.seRead] else [] }) := by
  have some := List.length_pos_of_ne_nil room
  rw [write, writeOffset, if_neg opened, if_neg (by omega)]
  simp only [Nat.sub_zero, Answer.done, consumeWriteBuffer, produce, overwrite, List.take_zero,
    List.nil_append, Nat.zero_add, List.take_left, List.drop_left]

theorem write_of_full {queue : ByteQueue} {bytes : List UInt8} (opened : queue.state ≠ .ssClosed)
    (full : queue.spare = []) :
    queue.write bytes =
      (queue, { Answer.done with result := .srBlock, posted := [.seRead] }) := by
  rw [write, writeOffset, if_neg opened, if_pos (by rw [full]; exact Nat.le_refl 0)]

/-- A read of no more bytes than there are gives them to the file, and removes as many as
the file reports. -/
theorem read_of_contents {platform : Platform} {queue : ByteQueue} {target : List UInt8}
    (some : 0 < target.length) (fits : target.length ≤ queue.contents.length) :
    queue.read platform target =
      (let data := queue.contents.take target.length
       let (file, _, written) := queue.file.write platform data
       let copy := written.getD data.length
       ({ queue with
            contents := queue.contents.drop copy
            spare := queue.spare ++ queue.contents.take copy
            file := file },
          { Answer.done with
              count := .some copy
              bytes := data
              posted := if queue.spare = [] ∧ 0 < copy then [.seWrite] else [] })) := by
  have all : (queue.contents.take target.length).length = target.length := by
    rw [List.length_take]
    exact Nat.min_eq_left fits
  have filled : queue.contents.take target.length ++ target.drop target.length =
      queue.contents.take target.length := by
    rw [List.drop_length, List.append_nil]
  rw [read, readOffset, if_neg (by omega)]
  simp only [List.drop_zero, all, filled, Answer.done, consumeReadData, consume]

inductive Runs (platform : Platform) :
    ByteQueue → List FifoBuffer.Call → List Answer → ByteQueue → Prop
  | nil {queue : ByteQueue} : Runs platform queue [] [] queue
  | cons {queue next final : ByteQueue} {call : FifoBuffer.Call} {answer : Answer}
      {calls : List FifoBuffer.Call} {answers : List Answer} :
      queue.Allows platform answer next call → Runs platform next calls answers final →
      Runs platform queue (call :: calls) (answer :: answers) final

end ByteQueue

namespace FifoBuffer

/-- The bytes of the buffer as they follow from the read position. -/
def ring (fifo : FifoBuffer) : List UInt8 := fifo.buffer.rotate fifo.readPosition

def contents (fifo : FifoBuffer) : List UInt8 := fifo.ring.take fifo.dataLength

def spare (fifo : FifoBuffer) : List UInt8 := fifo.ring.drop fifo.dataLength

def queue (fifo : FifoBuffer) : ByteQueue :=
  { state := fifo.state, contents := fifo.contents, spare := fifo.spare, file := fifo.file }

@[simp] theorem length_ring (fifo : FifoBuffer) : fifo.ring.length = fifo.buffer.length :=
  List.length_rotate ..

@[simp] theorem length_contents (fifo : FifoBuffer) :
    fifo.contents.length = fifo.dataLength := by
  have := fifo.stored
  rw [contents, List.length_take, length_ring]
  omega

@[simp] theorem length_spare (fifo : FifoBuffer) :
    fifo.spare.length = fifo.buffer.length - fifo.dataLength := by
  rw [spare, List.length_drop, length_ring]

theorem contents_append_spare (fifo : FifoBuffer) :
    fifo.contents ++ fifo.spare = fifo.ring := List.take_append_drop ..

/-- Cutting the ring where the contents end gives the queue. -/
theorem queue_of_ring {fifo : FifoBuffer} {front back : List UInt8}
    (ring : fifo.ring = front ++ back) (length : front.length = fifo.dataLength) :
    fifo.contents = front ∧ fifo.spare = back := by
  rw [contents, spare, ring, ← length, List.take_left, List.drop_left]
  exact ⟨rfl, rfl⟩

theorem contents_eq_nil_iff (fifo : FifoBuffer) :
    fifo.contents = [] ↔ fifo.dataLength = 0 := by
  rw [← List.length_eq_zero_iff, length_contents]

theorem spare_eq_nil_iff (fifo : FifoBuffer) :
    fifo.spare = [] ↔ fifo.buffer.length ≤ fifo.dataLength := by
  rw [← List.length_eq_zero_iff, length_spare]
  omega

theorem ring_of_position (fifo : FifoBuffer) {offset : Nat}
    (inside : offset ≤ fifo.buffer.length) :
    fifo.buffer.rotate ((fifo.readPosition + offset) % fifo.buffer.length) =
      fifo.ring.drop offset ++ fifo.ring.take offset := by
  rw [List.rotate_mod, ← List.rotate_rotate, List.rotate_eq_drop_append_take
    (by rw [List.length_rotate]; exact inside)]
  rfl

theorem ring_advance {fifo : FifoBuffer} {size : Nat} (fits : size ≤ fifo.dataLength)
    (positive : 0 < fifo.buffer.length) :
    (fifo.advance size fits positive).ring = fifo.ring.drop size ++ fifo.ring.take size :=
  ring_of_position fifo (by
    have := fifo.stored
    omega)

theorem queue_advance {fifo : FifoBuffer} {size : Nat} (fits : size ≤ fifo.dataLength)
    (positive : 0 < fifo.buffer.length) :
    (fifo.advance size fits positive).queue = fifo.queue.consume size := by
  have ring : (fifo.advance size fits positive).ring =
      fifo.contents.drop size ++ (fifo.spare ++ fifo.contents.take size) := by
    rw [ring_advance, ← contents_append_spare, List.drop_append_of_le_length (by simpa using fits),
      List.take_append_of_le_length (by simpa using fits), List.append_assoc]
  obtain ⟨front, back⟩ := queue_of_ring ring (by
    rw [List.length_drop, length_contents]
    rfl)
  simp only [queue, ByteQueue.consume, front, back]
  rfl

theorem queue_extend {fifo : FifoBuffer} {size : Nat}
    (fits : fifo.dataLength + size ≤ fifo.buffer.length) :
    (fifo.extend size fits).queue = fifo.queue.produce size := by
  have ring : (fifo.extend size fits).ring =
      (fifo.contents ++ fifo.spare.take size) ++ fifo.spare.drop size := by
    rw [List.append_assoc, List.take_append_drop, contents_append_spare]
    rfl
  obtain ⟨front, back⟩ := queue_of_ring ring (by
    rw [List.length_append, List.length_take, length_contents, length_spare]
    have : (fifo.extend size fits).dataLength = fifo.dataLength + size := rfl
    omega)
  simp only [queue, ByteQueue.produce, front, back]
  rfl

/-- What `ReadOffsetLocked` copies out of the buffer. -/
theorem copyOut_position {fifo : FifoBuffer} {offset count : Nat}
    (fits : offset + count ≤ fifo.dataLength) :
    copyOut fifo.buffer ((fifo.readPosition + offset) % fifo.buffer.length) count =
      (fifo.contents.drop offset).take count := by
  have := fifo.stored
  have position : (fifo.readPosition + offset) % fifo.buffer.length ≤ fifo.buffer.length := by
    by_cases empty : fifo.buffer.length = 0
    · have := fifo.inside
      rw [empty, Nat.mod_zero]
      omega
    · exact (Nat.mod_lt _ (by omega)).le
  rw [copyOut_eq position (by omega), ring_of_position fifo (by omega),
    List.take_append_of_le_length (by rw [List.length_drop, length_ring]; omega), contents,
    List.drop_take, List.take_take, Nat.min_eq_left (by omega)]

/-- A copy to the write position changes the spare places only. -/
theorem queue_of_copyIn {fifo after : FifoBuffer} {bytes : List UInt8} {offset : Nat}
    (room : fifo.dataLength + offset < fifo.buffer.length)
    (fits : fifo.dataLength + offset + bytes.length ≤ fifo.buffer.length)
    (buffer : after.buffer = copyIn fifo.buffer
      ((fifo.readPosition + fifo.dataLength + offset) % fifo.buffer.length) bytes)
    (rest : after.state = fifo.state ∧ after.dataLength = fifo.dataLength ∧
      after.readPosition = fifo.readPosition ∧ after.file = fifo.file) :
    after.queue = { fifo.queue with spare := overwrite fifo.spare offset bytes } := by
  have inside := fifo.inside
  obtain ⟨state, length, position, file⟩ := rest
  have ring : after.ring = fifo.contents ++ overwrite fifo.spare offset bytes := by
    rw [ring, buffer, position, Nat.add_assoc, copyIn_rotate (by omega) (by omega)]
    have cut := contents_append_spare fifo
    rw [ring] at cut
    rw [← cut, ← overwrite_append, length_contents]
  obtain ⟨front, back⟩ := queue_of_ring ring (by rw [length_contents, length])
  simp only [queue, front, back, state, file]

theorem queue_setCapacity (fifo : FifoBuffer) (memory : List UInt8) :
    ((fifo.setCapacity memory).1.queue,
        { Answer.done with returned := (fifo.setCapacity memory).2 }) =
      fifo.queue.setCapacity memory := by
  have stored := fifo.stored
  have buffered : fifo.queue.contents.length = fifo.dataLength := fifo.length_contents
  have capacity : fifo.queue.capacity = fifo.bufferLength := by
    rw [ByteQueue.capacity, buffered, show fifo.queue.spare.length = _ from fifo.length_spare]
    exact Nat.add_sub_of_le stored
  rw [ByteQueue.setCapacity, buffered, capacity, setCapacity]
  by_cases small : memory.length < fifo.dataLength
  · rw [dif_pos small, if_pos small]
  · rw [dif_neg small, if_neg small]
    by_cases same : memory.length = fifo.bufferLength
    · rw [if_pos same, if_pos same]
      rfl
    · rw [if_neg same, if_neg same]
      have copied : copyOut fifo.buffer fifo.readPosition fifo.dataLength = fifo.contents :=
        copyOut_eq fifo.readPosition_le stored
      generalize moved : FifoBuffer.mk fifo.state .. = after
      have ring : after.ring = fifo.contents ++ memory.drop fifo.dataLength := by
        rw [ring, ← moved]
        simp only [List.rotate_zero, copied, overwrite, List.take_zero, List.nil_append,
          Nat.zero_add, length_contents]
      obtain ⟨front, back⟩ := queue_of_ring ring (by rw [length_contents, ← moved])
      have rest : after.state = fifo.state ∧ after.file = fifo.file := by
        rw [← moved]
        exact ⟨rfl, rfl⟩
      simp only [queue, front, back, rest]
      rfl

theorem queue_readOffsetLocked (platform : Platform) (fifo : FifoBuffer) (target : List UInt8)
    (offset : Nat) :
    ((fifo.readOffsetLocked platform target offset).1.queue,
        { Answer.done with
            result := (fifo.readOffsetLocked platform target offset).2.1
            count := (fifo.readOffsetLocked platform target offset).2.2.1
            bytes := (fifo.readOffsetLocked platform target offset).2.2.2 }) =
      fifo.queue.readOffset platform target offset := by
  have buffered : fifo.queue.contents.length = fifo.dataLength := fifo.length_contents
  rw [ByteQueue.readOffset, buffered, readOffsetLocked]
  by_cases short : fifo.dataLength ≤ offset
  · rw [if_pos short, if_pos short]
    rfl
  · rw [if_neg short, if_neg short]
    have length : ((fifo.queue.contents.drop offset).take target.length).length =
        min target.length (fifo.dataLength - offset) := by
      rw [List.length_take, List.length_drop, buffered]
    have copied : copyOut fifo.buffer ((fifo.readPosition + offset) % fifo.bufferLength)
        (min target.length (fifo.dataLength - offset)) =
          (fifo.queue.contents.drop offset).take target.length := by
      rw [copyOut_position (by omega)]
      change _ = (fifo.contents.drop offset).take target.length
      rw [List.take_eq_take_iff, List.length_drop, length_contents]
      omega
    simp only [copied, length, overwrite, List.take_zero, List.nil_append, Nat.zero_add]
    rfl

theorem queue_writeOffsetLocked (fifo : FifoBuffer) (bytes : List UInt8) (offset : Nat) :
    ((fifo.writeOffsetLocked bytes offset).1.queue,
        { Answer.done with
            result := (fifo.writeOffsetLocked bytes offset).2.1
            count := (fifo.writeOffsetLocked bytes offset).2.2 }) =
      fifo.queue.writeOffset bytes offset := by
  have size : fifo.bufferLength = fifo.buffer.length := rfl
  have room : fifo.queue.spare.length = fifo.bufferLength - fifo.dataLength := fifo.length_spare
  rw [ByteQueue.writeOffset, room, writeOffsetLocked, show fifo.queue.state = fifo.state from rfl]
  by_cases closed : fifo.state = .ssClosed
  · rw [if_pos closed, if_pos closed]
    rfl
  · rw [if_neg closed, if_neg closed]
    by_cases full : fifo.bufferLength ≤ fifo.dataLength + offset
    · rw [dif_pos full, if_pos (by omega)]
      rfl
    · rw [dif_neg full, if_neg (by omega)]
      have taken : bytes.take (min bytes.length (fifo.bufferLength - fifo.dataLength - offset)) =
          bytes.take (fifo.bufferLength - fifo.dataLength - offset) := by
        rw [List.take_eq_take_iff]
        omega
      dsimp only
      generalize moved : FifoBuffer.mk fifo.state .. = after
      have changed : after.queue = { fifo.queue with
          spare := overwrite fifo.spare offset
            (bytes.take (fifo.bufferLength - fifo.dataLength - offset)) } :=
        queue_of_copyIn (by omega) (by rw [List.length_take]; omega)
          (by rw [← taken, ← moved]) (by rw [← moved]; exact ⟨rfl, rfl, rfl, rfl⟩)
      rw [changed, List.length_take, Nat.min_comm]
      rfl

theorem posted_advance (fifo : FifoBuffer) (size : Nat) :
    (if !decide (fifo.dataLength < fifo.bufferLength) && decide (0 < size) then
        [StreamEvent.seWrite] else []) =
      if fifo.spare = [] ∧ 0 < size then [.seWrite] else [] := by
  have full := fifo.spare_eq_nil_iff
  simp only [full, Bool.and_eq_true, Bool.not_eq_true', decide_eq_false_iff_not, not_lt,
    decide_eq_true_eq]

theorem posted_extend (fifo : FifoBuffer) (size : Nat) :
    (if !decide (0 < fifo.dataLength) && decide (0 < size) then
        [StreamEvent.seRead] else []) =
      if fifo.contents = [] ∧ 0 < size then [.seRead] else [] := by
  have empty := fifo.contents_eq_nil_iff
  simp only [empty, Bool.and_eq_true, Bool.not_eq_true', decide_eq_false_iff_not, not_lt,
    decide_eq_true_eq, Nat.le_zero]

theorem readOffsetLocked_frame (platform : Platform) (fifo : FifoBuffer) (target : List UInt8)
    (offset : Nat) :
    let after := (fifo.readOffsetLocked platform target offset).1
    after.dataLength = fifo.dataLength ∧ after.buffer = fifo.buffer := by
  rw [readOffsetLocked]
  split <;> exact ⟨rfl, rfl⟩

theorem readOffsetLocked_count (platform : Platform) (fifo : FifoBuffer) (target : List UInt8)
    (offset : Nat) :
    (fifo.readOffsetLocked platform target offset).2.1 = .srSuccess ↔
      ∃ copy, (fifo.readOffsetLocked platform target offset).2.2.1 = some copy := by
  rw [readOffsetLocked]
  split
  · split <;> simp
  · simp

theorem writeOffsetLocked_count (fifo : FifoBuffer) (bytes : List UInt8) (offset : Nat) :
    (fifo.writeOffsetLocked bytes offset).2.1 = .srSuccess ↔
      ∃ copy, (fifo.writeOffsetLocked bytes offset).2.2 = some copy := by
  rw [writeOffsetLocked]
  split
  · simp
  · split <;> simp

theorem writeOffsetLocked_dataLength (fifo : FifoBuffer) (bytes : List UInt8) (offset : Nat) :
    (fifo.writeOffsetLocked bytes offset).1.dataLength = fifo.dataLength := by
  rw [writeOffsetLocked]
  split
  · rfl
  · split <;> rfl

theorem queue_read {platform : Platform} {fifo after : FifoBuffer} {target : List UInt8}
    {answer : Answer} (called : fifo.read platform target = some (after, answer)) :
    (after.queue, answer) = fifo.queue.read platform target := by
  have inner := queue_readOffsetLocked platform fifo target 0
  obtain ⟨length, buffer⟩ := readOffsetLocked_frame platform fifo target 0
  have counted := readOffsetLocked_count platform fifo target 0
  rw [ByteQueue.read, ← inner]
  rw [read] at called
  generalize fifo.readOffsetLocked platform target 0 = outcome at *
  obtain ⟨middle, result, count, filled⟩ := outcome
  dsimp only at *
  by_cases success : result = .srSuccess
  · obtain ⟨copy, rfl⟩ := counted.mp success
    subst success
    rw [if_pos rfl] at called
    split at called
    · cases called
      have posted := posted_advance middle copy
      rw [length, show middle.bufferLength = fifo.bufferLength from
        congrArg List.length buffer] at posted
      simp only [queue_advance, Option.getD_some, posted]
      rfl
    · cases called
  · rw [if_neg success] at called
    cases called
    have uncounted : count = none := by
      cases count with
      | none => rfl
      | some copy => exact absurd (counted.mpr ⟨copy, rfl⟩) success
    rw [uncounted]
    cases result <;> rfl

theorem queue_write {fifo after : FifoBuffer} {bytes : List UInt8} {answer : Answer}
    (called : fifo.write bytes = some (after, answer)) :
    (after.queue, answer) = fifo.queue.write bytes := by
  have inner := queue_writeOffsetLocked fifo bytes 0
  have length := writeOffsetLocked_dataLength fifo bytes 0
  have counted := writeOffsetLocked_count fifo bytes 0
  rw [ByteQueue.write, ← inner]
  rw [write] at called
  generalize fifo.writeOffsetLocked bytes 0 = outcome at *
  obtain ⟨middle, result, count⟩ := outcome
  dsimp only at *
  by_cases success : result = .srSuccess
  · obtain ⟨copy, rfl⟩ := counted.mp success
    subst success
    rw [if_pos rfl] at called
    split at called
    · cases called
      have posted := posted_extend middle copy
      rw [length] at posted
      simp only [queue_extend, Option.getD_some, posted]
      rfl
    · cases called
  · rw [if_neg success] at called
    cases called
    have uncounted : count = none := by
      cases count with
      | none => rfl
      | some copy => exact absurd (counted.mpr ⟨copy, rfl⟩) success
    rw [uncounted]
    cases result <;> rfl

theorem queue_consumeReadData {fifo after : FifoBuffer} {size : Nat} {answer : Answer}
    (called : fifo.consumeReadData size = some (after, answer)) :
    size ≤ fifo.queue.contents.length ∧
      (after.queue, answer) = fifo.queue.consumeReadData size := by
  rw [consumeReadData] at called
  split at called
  · rename_i fits
    cases called
    refine ⟨fits.1.trans_eq fifo.length_contents.symm, ?_⟩
    simp only [queue_advance, posted_advance]
    rfl
  · cases called

theorem queue_consumeWriteBuffer {fifo after : FifoBuffer} {size : Nat} {answer : Answer}
    (called : fifo.consumeWriteBuffer size = some (after, answer)) :
    size ≤ fifo.queue.spare.length ∧
      (after.queue, answer) = fifo.queue.consumeWriteBuffer size := by
  rw [consumeWriteBuffer] at called
  split at called
  · rename_i fits
    cases called
    have room : fifo.queue.spare.length = fifo.buffer.length - fifo.dataLength :=
      fifo.length_spare
    refine ⟨by omega, ?_⟩
    simp only [queue_extend, posted_extend]
    rfl
  · cases called

theorem getReadData_prefix (fifo : FifoBuffer) :
    fifo.getReadData <+: fifo.contents ∧ (fifo.getReadData = [] → fifo.contents = []) := by
  have stored := fifo.stored
  have size : fifo.bufferLength = fifo.buffer.length := rfl
  have inside := fifo.inside
  have ring : fifo.ring = fifo.buffer.drop fifo.readPosition ++
      fifo.buffer.take fifo.readPosition := List.rotate_eq_drop_append_take fifo.readPosition_le
  have block : fifo.getReadData = fifo.contents.take (fifo.buffer.length - fifo.readPosition) := by
    rw [getReadData, contents, ring, List.take_take,
      List.take_append_of_le_length (by rw [List.length_drop]; omega), List.take_eq_take_iff,
      List.length_drop]
    split <;> omega
  rw [block]
  refine ⟨List.take_prefix .., fun none => ?_⟩
  have empty := congrArg List.length none
  rw [List.length_take, length_contents, List.length_nil] at empty
  exact fifo.contents_eq_nil_iff.mpr (by omega)

/-- With room in the buffer, the block that can be written in one piece is free. -/
theorem writeBlock_bounds {fifo : FifoBuffer} (room : fifo.dataLength < fifo.buffer.length) :
    0 < fifo.writeBlock ∧ fifo.writeBlock ≤ fifo.spare.length := by
  have inside := fifo.inside
  have size : fifo.bufferLength = fifo.buffer.length := rfl
  have position : fifo.writePosition = _ := mod_eq_of_lt_two
    (show fifo.readPosition + fifo.dataLength < fifo.bufferLength + fifo.bufferLength by omega)
  rw [length_spare, writeBlock, position]
  split <;> split <;> omega

theorem writePosition_of_full {fifo : FifoBuffer}
    (full : fifo.dataLength = fifo.buffer.length) : fifo.writePosition = fifo.readPosition := by
  have inside := fifo.inside
  rw [writePosition, bufferLength, full, Nat.add_mod_right]
  by_cases empty : fifo.buffer.length = 0
  · rw [empty, Nat.mod_zero]
  · exact Nat.mod_eq_of_lt (by omega)

theorem writeBlock_of_full {fifo : FifoBuffer} (full : fifo.dataLength = fifo.buffer.length) :
    fifo.writeBlock = fifo.buffer.length - fifo.readPosition := by
  rw [writeBlock, writePosition_of_full full, if_pos le_rfl]

theorem queue_getWriteBuffer {platform : Platform} {fifo after : FifoBuffer} {count : Option Nat}
    (called : fifo.getWriteBuffer = some (after, count)) :
    fifo.queue.Allows platform { Answer.done with count := count } after.queue
      .getWriteBuffer := by
  have stored := fifo.stored
  rw [getWriteBuffer] at called
  split at called
  · rename_i closed
    cases called
    exact ⟨rfl, rfl, rfl, rfl, List.IsRotated.refl _, fun _ => rfl,
      ⟨fun _ => closed, fun _ => rfl⟩, fun size reported => nomatch reported⟩
  · rename_i notClosed
    split at called
    · cases called
    · rename_i positive
      have size : fifo.bufferLength = fifo.buffer.length := rfl
      have reported (block : Nat) : some block = none ↔ fifo.queue.state = .ssClosed :=
        ⟨fun none => (nomatch none), fun closed => absurd closed notClosed⟩
      by_cases empty : fifo.dataLength = 0
      · simp only [empty, ↓reduceIte, Option.some.injEq, Prod.mk.injEq] at called
        obtain ⟨rfl, rfl⟩ := called
        have nothing : fifo.queue.contents = [] := fifo.contents_eq_nil_iff.mpr empty
        have rotated : fifo.queue.spare = fifo.ring := by
          rw [show fifo.queue.spare = fifo.ring.drop fifo.dataLength from rfl, empty,
            List.drop_zero]
        refine ⟨rfl, ?_, rfl, rfl, ?_, fun some => absurd nothing some, reported _, ?_⟩
        · rw [nothing]
          rfl
        · rw [rotated]
          refine ⟨fifo.readPosition, ?_⟩
          change ((fifo.buffer.rotate 0).drop 0).rotate _ = _
          rw [List.drop_zero, List.rotate_zero]
          rfl
        · intro block same
          cases same
          rw [if_pos nothing, ByteQueue.capacity, nothing, rotated, length_ring]
          simp [writeBlock, writePosition]
      · simp only [empty, ↓reduceIte, Option.some.injEq, Prod.mk.injEq] at called
        obtain ⟨rfl, rfl⟩ := called
        have something : fifo.queue.contents ≠ [] := fun nothing =>
          empty (fifo.contents_eq_nil_iff.mp nothing)
        refine ⟨rfl, rfl, rfl, rfl, List.IsRotated.refl _, fun _ => rfl, reported _, ?_⟩
        intro block same
        cases same
        rw [if_neg something]
        intro room
        have free : ¬ fifo.buffer.length ≤ fifo.dataLength := fun full =>
          room (fifo.spare_eq_nil_iff.mpr full)
        exact writeBlock_bounds (by omega)

theorem queue_fillWriteBuffer {fifo after : FifoBuffer} {bytes : List UInt8}
    (room : fifo.dataLength < fifo.buffer.length)
    (called : fifo.fillWriteBuffer bytes = some after) :
    bytes.length ≤ fifo.queue.spare.length ∧
      after.queue = { fifo.queue with spare := overwrite fifo.queue.spare 0 bytes } := by
  rw [fillWriteBuffer] at called
  split at called
  · rename_i fits
    cases called
    have bounds := writeBlock_bounds room
    have free : fifo.queue.spare.length = fifo.buffer.length - fifo.dataLength :=
      fifo.length_spare
    have short : bytes.length ≤ fifo.queue.spare.length := fits.2.trans bounds.2
    exact ⟨short, queue_of_copyIn (by omega) (by omega)
      (copyIn_eq_overwrite fits.1).symm ⟨rfl, rfl, rfl, rfl⟩⟩
  · cases called

/-- Filling the block of a full buffer replaces the bytes that are to be read first. -/
theorem contents_fillWriteBuffer_of_full {fifo after : FifoBuffer} {bytes : List UInt8}
    (full : fifo.dataLength = fifo.buffer.length)
    (called : fifo.fillWriteBuffer bytes = some after) :
    after.contents = overwrite fifo.contents 0 bytes := by
  have inside := fifo.inside
  rw [fillWriteBuffer] at called
  split at called
  · rename_i fits
    cases called
    by_cases empty : fifo.buffer.length = 0
    · have none : bytes = [] := List.eq_nil_of_length_eq_zero (by omega)
      have nothing : fifo.buffer = [] := List.eq_nil_of_length_eq_zero empty
      simp [contents, ring, overwrite, none, nothing]
    · have position : fifo.writePosition = (fifo.readPosition + 0) % fifo.buffer.length := by
        rw [writePosition, bufferLength, full, Nat.add_mod_right, Nat.add_zero]
      have short : bytes.length ≤ fifo.buffer.length := by omega
      have whole : fifo.contents = fifo.ring := by
        rw [contents, full, ← length_ring, List.take_length]
      rw [contents, ring]
      dsimp only
      rw [← copyIn_eq_overwrite fits.1, position, copyIn_rotate (by omega) (by omega), whole,
        List.take_of_length_le]
      · rfl
      · rw [length_overwrite (by rw [List.length_rotate]; omega), List.length_rotate]
        exact full.ge
  · cases called

/-- In a full buffer the block that can be written is the one that can be read. -/
theorem block_of_full {fifo : FifoBuffer} (full : fifo.dataLength = fifo.buffer.length) :
    (fifo.buffer.drop fifo.writePosition).take fifo.writeBlock = fifo.getReadData := by
  have inside := fifo.inside
  have size : fifo.bufferLength = fifo.buffer.length := rfl
  rw [writeBlock_of_full full, writePosition_of_full full, getReadData]
  congr 1
  split <;> omega

theorem getWriteBuffer_frame {fifo after : FifoBuffer} {size : Nat}
    (called : fifo.getWriteBuffer = some (after, some size)) :
    after.dataLength = fifo.dataLength ∧ after.buffer = fifo.buffer ∧
      0 < fifo.buffer.length ∧ size = after.writeBlock := by
  rw [getWriteBuffer] at called
  split at called
  · cases called
  · split at called
    · cases called
    · rename_i positive
      simp only [Option.some.injEq, Prod.mk.injEq] at called
      obtain ⟨rfl, rfl⟩ := called
      split <;> exact ⟨rfl, rfl, Nat.pos_of_ne_zero positive, rfl⟩

/-- A caller that fills the block it was given leaves the unread bytes alone, whatever it
writes, if and only if there was room in the buffer. In a full buffer the block is not empty,
and it is the block of the bytes that are to be read next. -/
theorem getWriteBuffer_free_iff {fifo after : FifoBuffer} {size : Nat}
    (called : fifo.getWriteBuffer = some (after, some size)) :
    ((∀ bytes filled, after.fillWriteBuffer bytes = some filled →
        filled.contents = after.contents) ↔ fifo.dataLength < fifo.bufferLength) ∧
      (fifo.dataLength = fifo.bufferLength →
        0 < size ∧ (after.buffer.drop after.writePosition).take size = after.getReadData ∧
          ∀ bytes filled, after.fillWriteBuffer bytes = some filled →
            filled.contents = overwrite after.contents 0 bytes) := by
  have stored := fifo.stored
  have inside := after.inside
  have capacity : fifo.bufferLength = fifo.buffer.length := rfl
  obtain ⟨length, buffer, positive, rfl⟩ := getWriteBuffer_frame called
  refine ⟨⟨fun kept => ?_, fun room bytes filled written => ?_⟩, fun full => ?_⟩
  · by_contra none
    have full : after.dataLength = after.buffer.length := by
      rw [length, buffer]
      omega
    have block := writeBlock_of_full full
    have position : after.writePosition < after.buffer.length :=
      Nat.mod_lt _ (by rw [bufferLength, buffer]; exact positive)
    obtain ⟨first, rest, unread⟩ : ∃ first rest, after.contents = first :: rest :=
      List.exists_cons_of_length_pos (by rw [length_contents, full, buffer]; exact positive)
    have fits : after.writePosition + [first + 1].length ≤ after.buffer.length ∧
        [first + 1].length ≤ after.writeBlock := by
      rw [block]
      simp only [List.length_singleton]
      omega
    have filled : ∃ next, after.fillWriteBuffer [first + 1] = some next := by
      rw [fillWriteBuffer, dif_pos fits]
      exact ⟨_, rfl⟩
    obtain ⟨next, filled⟩ := filled
    have same := kept _ _ filled
    rw [contents_fillWriteBuffer_of_full full filled, unread] at same
    simp [overwrite] at same
  · exact congrArg ByteQueue.contents
      (queue_fillWriteBuffer (by rw [length, buffer]; exact room) written).2
  · have filledUp : after.dataLength = after.buffer.length := by
      rw [length, buffer]
      exact full
    have some : 0 < after.writeBlock := by
      have nonempty : 0 < after.buffer.length := by rwa [buffer]
      rw [writeBlock_of_full filledUp]
      omega
    exact ⟨some, block_of_full filledUp, fun _ _ written =>
      contents_fillWriteBuffer_of_full filledUp written⟩

/-- A buffer of four places that is full of bytes. -/
def fourPlaces : FifoBuffer :=
  { state := .ssOpen, buffer := [1, 2, 3, 4], dataLength := 4, readPosition := 3,
    file := { isOpen := true, padBuffer := false, encryptedLog := false, contents := [],
              calls := 0 }
    stored := by decide
    inside := by decide }

theorem getWriteBuffer_free_iff_fourPlaces :
    ((∀ bytes filled, fourPlaces.fillWriteBuffer bytes = some filled →
        filled.contents = fourPlaces.contents) ↔
          fourPlaces.dataLength < fourPlaces.bufferLength) ∧
      (fourPlaces.dataLength = fourPlaces.bufferLength →
        0 < 1 ∧ (fourPlaces.buffer.drop fourPlaces.writePosition).take 1 =
            fourPlaces.getReadData ∧
          ∀ bytes filled, fourPlaces.fillWriteBuffer bytes = some filled →
            filled.contents = overwrite fourPlaces.contents 0 bytes) :=
  getWriteBuffer_free_iff (show fourPlaces.getWriteBuffer = some (fourPlaces, some 1) by decide)

/-- One call, with the answers so far. -/
def step (platform : Platform) (session : FifoBuffer × List Answer) (call : Call) :
    Option (FifoBuffer × List Answer) := do
  let (after, answer) ← session.1.call platform call
  some (after, session.2 ++ [answer])

def Call.isFill : Call → Bool
  | .fillWriteBuffer _ => true
  | _ => false

/-- A block that `GetWriteBuffer` handed out is filled only while there is room. -/
def FillsRoom (session : FifoBuffer × List Answer) (call : Call) : Prop :=
  call.isFill = true → session.1.dataLength < session.1.bufferLength

instance (session : FifoBuffer × List Answer) (call : Call) : Decidable (FillsRoom session call) :=
  inferInstanceAs (Decidable (_ → _))

/-- The calls that the code carries out within its memory. A read takes away as many bytes as
the file says it wrote, which are more than there are when it asks for more: the file is
given all of the caller's bytes. The sizes that a caller consumes are asserted, and a buffer
of no places has no next position. -/
def InBounds (platform : Platform) (session : FifoBuffer × List Answer) : Call → Prop
  | .read target =>
      ∀ copy ∈ (session.1.readOffsetLocked platform target 0).2.2.1, copy ≤ session.1.dataLength
  | .consumeReadData size => size ≤ session.1.getBuffered ∧ 0 < session.1.bufferLength
  | .getWriteBuffer => session.1.state = .ssClosed ∨ 0 < session.1.bufferLength
  | .fillWriteBuffer bytes => bytes.length ≤ session.1.writeBlock
  | .consumeWriteBuffer size => size ≤ session.1.getWriteRemaining
  | _ => True

theorem call_allowed {platform : Platform} {fifo after : FifoBuffer} {call : Call}
    {answer : Answer}
    (room : call.isFill = true → fifo.dataLength < fifo.bufferLength)
    (called : fifo.call platform call = some (after, answer)) :
    fifo.queue.Allows platform answer after.queue call := by
  cases call with
  | getBuffered =>
      cases called
      simp only [ByteQueue.Allows, getBuffered, queue, length_contents]
  | getWriteRemaining =>
      cases called
      simp only [ByteQueue.Allows, getWriteRemaining, queue, length_spare]
  | setCapacity memory =>
      cases called
      exact queue_setCapacity fifo memory
  | readOffset target offset =>
      cases called
      exact queue_readOffsetLocked platform fifo target offset
  | writeOffset bytes offset =>
      cases called
      exact queue_writeOffsetLocked fifo bytes offset
  | read target => exact queue_read called
  | write bytes => exact queue_write called
  | close =>
      cases called
      rfl
  | getReadData =>
      cases called
      exact ⟨rfl, rfl, fifo.getReadData_prefix⟩
  | consumeReadData size => exact queue_consumeReadData called
  | getWriteBuffer =>
      obtain ⟨⟨middle, count⟩, got, same⟩ := Option.bind_eq_some_iff.mp called
      cases same
      exact queue_getWriteBuffer got
  | fillWriteBuffer bytes =>
      obtain ⟨middle, filled, same⟩ := Option.bind_eq_some_iff.mp called
      cases same
      obtain ⟨short, changed⟩ := queue_fillWriteBuffer (room rfl) filled
      exact ⟨short, by rw [changed]⟩
  | consumeWriteBuffer size => exact queue_consumeWriteBuffer called

theorem write_isSome (fifo : FifoBuffer) (bytes : List UInt8) : (fifo.write bytes).isSome := by
  have stored := fifo.stored
  have size : fifo.bufferLength = fifo.buffer.length := rfl
  have fits : (fifo.writeOffsetLocked bytes 0).1.dataLength +
      (fifo.writeOffsetLocked bytes 0).2.2.getD 0 ≤
        (fifo.writeOffsetLocked bytes 0).1.buffer.length := by
    rw [writeOffsetLocked]
    split
    · exact stored
    · split
      · exact stored
      · dsimp only
        rw [length_copyIn (Nat.mod_lt _ (by omega)).le (by rw [List.length_take]; omega),
          Option.getD_some]
        omega
  simp only [write, dif_pos fits]
  split <;> rfl

theorem read_isSome_iff (platform : Platform) (fifo : FifoBuffer) (target : List UInt8) :
    (fifo.read platform target).isSome ↔
      ∀ copy ∈ (fifo.readOffsetLocked platform target 0).2.2.1, copy ≤ fifo.dataLength := by
  have stored := fifo.stored
  have success := readOffsetLocked_count platform fifo target 0
  obtain ⟨length, buffer⟩ := readOffsetLocked_frame platform fifo target 0
  have unread (copy : Nat)
      (counted : (fifo.readOffsetLocked platform target 0).2.2.1 = some copy) :
      0 < fifo.dataLength := by
    rw [readOffsetLocked] at counted
    split at counted
    · cases counted
    · omega
  rw [read]
  generalize fifo.readOffsetLocked platform target 0 = outcome at *
  obtain ⟨middle, result, count, filled⟩ := outcome
  dsimp only at *
  cases count with
  | none =>
      have failed : result ≠ .srSuccess := fun succeeded => by
        obtain ⟨copy, counted⟩ := success.mp succeeded
        cases counted
      simp [failed]
  | some copy =>
      have positive := unread copy rfl
      rw [if_pos (success.mpr ⟨copy, rfl⟩)]
      split
      · rename_i fits
        rw [length] at fits
        exact iff_of_true rfl fun _ counted => Option.some.inj counted ▸ fits.1
      · rename_i unfit
        rw [length, buffer] at unfit
        exact iff_of_false Bool.false_ne_true fun all => unfit ⟨all copy rfl, by omega⟩

theorem writePosition_add_writeBlock (fifo : FifoBuffer) :
    fifo.writePosition + fifo.writeBlock ≤ fifo.buffer.length := by
  have position := fifo.readPosition_le
  have last : fifo.writePosition ≤ fifo.buffer.length := by
    have inside := fifo.inside
    have stored := fifo.stored
    rw [writePosition, bufferLength]
    by_cases empty : fifo.buffer.length = 0
    · rw [empty, Nat.mod_zero]
      omega
    · exact (Nat.mod_lt _ (by omega)).le
  have size : fifo.bufferLength = fifo.buffer.length := rfl
  rw [writeBlock]
  split <;> omega

/-- The model has no next state exactly where the code leaves its memory. -/
theorem step_isSome_iff (platform : Platform) (session : FifoBuffer × List Answer)
    (call : Call) : (step platform session call).isSome ↔ InBounds platform session call := by
  have stepped : (step platform session call).isSome = (session.1.call platform call).isSome := by
    rw [step]
    cases session.1.call platform call <;> rfl
  rw [stepped]
  have stored := session.1.stored
  have size : session.1.bufferLength = session.1.buffer.length := rfl
  cases call with
  | read target => exact read_isSome_iff platform session.1 target
  | write bytes => exact iff_of_true (write_isSome session.1 bytes) trivial
  | consumeReadData count =>
      rw [FifoBuffer.call, consumeReadData, InBounds, getBuffered]
      split
      · rename_i fits
        exact iff_of_true rfl fits
      · rename_i unfit
        exact iff_of_false (by simp) unfit
  | getWriteBuffer =>
      rw [FifoBuffer.call, getWriteBuffer, InBounds]
      by_cases closed : session.1.state = .ssClosed
      · simp [closed]
      · by_cases empty : session.1.bufferLength = 0
        · simp [closed, empty]
        · simp [closed, empty, Nat.pos_of_ne_zero empty]
  | fillWriteBuffer bytes =>
      have block := session.1.writePosition_add_writeBlock
      rw [FifoBuffer.call, fillWriteBuffer, InBounds]
      by_cases fits : bytes.length ≤ session.1.writeBlock
      · have bounds : session.1.writePosition + bytes.length ≤ session.1.buffer.length ∧
            bytes.length ≤ session.1.writeBlock := ⟨by omega, fits⟩
        simp [bounds]
      · simp [fits]
  | consumeWriteBuffer count =>
      rw [FifoBuffer.call, consumeWriteBuffer, InBounds, getWriteRemaining]
      by_cases fits : session.1.dataLength + count ≤ session.1.buffer.length
      · rw [dif_pos fits]
        exact iff_of_true rfl (by omega)
      · rw [dif_neg fits]
        exact iff_of_false (by simp) (by omega)
  | _ => exact iff_of_true rfl trivial

theorem runs_of_execute {platform : Platform} {fifo final : FifoBuffer}
    {before answers : List Answer} {calls : List Call}
    (filled : Guarded (step platform) FillsRoom (fifo, before) calls)
    (executed : execute (step platform) (fifo, before) calls = some (final, answers)) :
    ∃ after, answers = before ++ after ∧
      ByteQueue.Runs platform fifo.queue calls after final.queue := by
  induction calls generalizing fifo before with
  | nil =>
      simp only [execute_nil, Option.some.injEq, Prod.mk.injEq] at executed
      obtain ⟨rfl, rfl⟩ := executed
      exact ⟨[], (List.append_nil _).symm, .nil⟩
  | cons call calls ih =>
      obtain ⟨next, taken, rest⟩ := execute_cons_eq_some.mp executed
      have later := filled.2 next taken
      obtain ⟨⟨middle, answer⟩, called, same⟩ := Option.bind_eq_some_iff.mp taken
      cases same
      obtain ⟨after, answered, runs⟩ := ih later rest
      refine ⟨answer :: after, ?_, .cons (call_allowed filled.1 called) runs⟩
      rw [answered, List.append_assoc]
      rfl

def wrappedCalls : List Call :=
  [.read [0, 0, 0], .write [5], .getWriteBuffer, .fillWriteBuffer [6], .consumeWriteBuffer 1,
    .write [7, 8], .getReadData, .setCapacity [0, 0, 0, 0, 0]]

def readyPlatform : Platform := { takes := fun _ => 1024, encrypted := fun data => data }

/-- A read of more than there is: the open file takes all five bytes, and four are there. -/
example : (fourPlaces.call readyPlatform (.read [0, 0, 0, 0, 0])) = none := by decide

theorem capacity_queue (fifo : FifoBuffer) : fifo.queue.capacity = fifo.bufferLength := by
  have buffered : fifo.queue.contents.length = fifo.dataLength := fifo.length_contents
  have free : fifo.queue.spare.length = fifo.bufferLength - fifo.dataLength := fifo.length_spare
  rw [ByteQueue.capacity, buffered, free]
  exact Nat.add_sub_of_le fifo.stored

/-- What a write to an open buffer leaves and answers. -/
structure Written (fifo : FifoBuffer) (bytes : List UInt8) (after : FifoBuffer)
    (answer : Answer) : Prop where
  file : after.file = fifo.file
  state : after.state = .ssOpen
  bufferLength : after.bufferLength = fifo.bufferLength
  outcome :
    (answer.result = .srBlock ∧ fifo.spare = [] ∧ after.contents = fifo.contents ∧
        answer.posted = [.seRead]) ∨
      (answer.result = .srSuccess ∧ ∃ copy, answer.count = some copy ∧ copy ≤ bytes.length ∧
        after.contents = fifo.contents ++ bytes.take copy ∧ (bytes ≠ [] → 0 < copy) ∧
          answer.posted = if fifo.contents = [] ∧ 0 < copy then [.seRead] else [])

theorem write_written {fifo : FifoBuffer} (bytes : List UInt8) (opened : fifo.state = .ssOpen) :
    ∃ after answer, fifo.write bytes = some (after, answer) ∧ Written fifo bytes after answer := by
  obtain ⟨⟨after, answer⟩, called⟩ := Option.isSome_iff_exists.mp (fifo.write_isSome bytes)
  refine ⟨after, answer, called, ?_⟩
  have notClosed : fifo.queue.state ≠ .ssClosed := by
    rw [show fifo.queue.state = fifo.state from rfl, opened]
    decide
  have answered := queue_write called
  have same := after.capacity_queue
  by_cases full : fifo.queue.spare = []
  · rw [ByteQueue.write_of_full notClosed full] at answered
    obtain ⟨left, rfl⟩ := Prod.mk.injEq .. ▸ answered
    refine ⟨congrArg ByteQueue.file left, (congrArg ByteQueue.state left).trans opened, ?_,
      .inl ⟨rfl, full, congrArg ByteQueue.contents left, rfl⟩⟩
    rw [← same, left, capacity_queue]
  · rw [ByteQueue.write_of_room notClosed full] at answered
    obtain ⟨left, rfl⟩ := Prod.mk.injEq .. ▸ answered
    have room := List.length_pos_of_ne_nil full
    refine ⟨congrArg ByteQueue.file left, (congrArg ByteQueue.state left).trans opened, ?_,
      .inr ⟨rfl, _, rfl, List.length_take_le' .., ?_, ?_, rfl⟩⟩
    · rw [← same, left, ← capacity_queue, ByteQueue.capacity, ByteQueue.capacity]
      simp only [List.length_append, List.length_drop, List.length_take]
      omega
    · have taken : bytes.take (bytes.take fifo.queue.spare.length).length =
          bytes.take fifo.queue.spare.length := by
        rw [List.length_take, List.take_eq_take_iff]
        omega
      rw [taken]
      exact congrArg ByteQueue.contents left
    · intro some
      have := List.length_pos_of_ne_nil some
      rw [List.length_take]
      omega

/-- What a read of buffered bytes leaves and answers, when the file took `copy` of them. -/
structure ReadOut (platform : Platform) (fifo : FifoBuffer) (bytes : Nat) (copy : Nat)
    (after : FifoBuffer) (answer : Answer) : Prop where
  file : after.file = (fifo.file.write platform (fifo.contents.take bytes)).1
  state : after.state = fifo.state
  bufferLength : after.bufferLength = fifo.bufferLength
  contents : after.contents = fifo.contents.drop copy
  count : answer.count = some copy
  length : answer.bytes.length = bytes
  posted : StreamEvent.seRead ∉ answer.posted

theorem read_readOut {platform : Platform} {fifo : FifoBuffer} {target : List UInt8} {copy : Nat}
    (some : 0 < target.length) (fits : target.length ≤ fifo.dataLength)
    (taken : (fifo.file.write platform (fifo.contents.take target.length)).2.2.getD
      target.length = copy) (within : copy ≤ target.length) :
    ∃ after answer, fifo.read platform target = .some (after, answer) ∧
      ReadOut platform fifo target.length copy after answer := by
  have buffered : fifo.queue.contents.length = fifo.dataLength := fifo.length_contents
  have all : (fifo.queue.contents.take target.length).length = target.length := by
    rw [List.length_take, buffered]
    exact Nat.min_eq_left fits
  have counted := congrArg (·.2.count) (queue_readOffsetLocked platform fifo target 0)
  rw [ByteQueue.readOffset, if_neg (by omega)] at counted
  simp only [List.drop_zero, all, List.drop_length, List.append_nil] at counted
  have defined := (read_isSome_iff platform fifo target).mpr fun read reported => by
    rw [counted] at reported
    cases reported
    exact (taken.trans_le within).trans fits
  obtain ⟨⟨after, answer⟩, called⟩ := Option.isSome_iff_exists.mp defined
  refine ⟨after, answer, called, ?_⟩
  have answered := queue_read called
  have same := after.capacity_queue
  rw [ByteQueue.read_of_contents some (by omega)] at answered
  simp only [all] at answered
  rw [show (fifo.queue.file.write platform (fifo.queue.contents.take target.length)).2.2.getD
    target.length = copy from taken] at answered
  obtain ⟨left, rfl⟩ := Prod.mk.injEq .. ▸ answered
  refine ⟨congrArg ByteQueue.file left, congrArg ByteQueue.state left, ?_,
    congrArg ByteQueue.contents left, rfl, all, ?_⟩
  · rw [← same, left, ← capacity_queue, ByteQueue.capacity, ByteQueue.capacity]
    simp only [List.length_append, List.length_drop, List.length_take]
    omega
  · dsimp only
    split <;> decide

end FifoBuffer

end FiberApp.Logging
