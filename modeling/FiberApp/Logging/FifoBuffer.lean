import FiberApp.Foundation.WrappedCopy

/-! The byte buffer between the code that logs and the thread that writes the log:
`FileStream::Write` and `FifoBuffer` of `talk/base/stream.cc`. -/

set_option autoImplicit false

namespace FiberApp.Logging

open FiberApp.Foundation

inductive StreamState
  | ssOpen
  | ssClosed
  deriving DecidableEq, Repr

inductive StreamResult
  | srError
  | srSuccess
  | srBlock
  | srEos
  deriving DecidableEq, Repr

inductive StreamEvent
  | seRead
  | seWrite
  deriving DecidableEq, Repr

/-- What the operating system and the RSA code do: how many bytes each call of `fwrite`
takes at most, and the block that `RSA_public_encrypt` leaves in `encrypted_str`. -/
structure Platform where
  takes : Nat → Nat
  encrypted : List UInt8 → List UInt8

/-- `FileStream`; `isOpen` stands for a `file_` that is not null. -/
structure FileStream where
  isOpen : Bool
  padBuffer : Bool
  encryptedLog : Bool
  contents : List UInt8
  /-- The calls of `fwrite` so far. -/
  calls : Nat
  deriving DecidableEq, Repr

def streamBufsize : Nat := 128

namespace FileStream

def fwrite (platform : Platform) (file : FileStream) (data : List UInt8) : FileStream × Nat :=
  let result := min (platform.takes file.calls) data.length
  ({ file with contents := file.contents ++ data.take result, calls := file.calls + 1 }, result)

/-- The loop of `EncryptLog`, which goes round once for each whole block of `data`. -/
def encryptBlocks (platform : Platform) : Nat → FileStream → List UInt8 → FileStream
  | 0, file, _ => file
  | blocks + 1, file, data =>
      -- the count that `fwrite` returns is not looked at
      encryptBlocks platform blocks
        (fwrite platform file (platform.encrypted (data.take streamBufsize))).1
        (data.drop streamBufsize)

def encryptLog (platform : Platform) (file : FileStream) (data : List UInt8) :
    FileStream × Nat :=
  if data.length < streamBufsize then
    if file.padBuffer then
      let padded := data ++ List.replicate (streamBufsize - data.length) 0
      -- a padded block counts as the bytes it was made from, unless there were none
      (encryptBlocks platform 1 file padded,
        if data.length = 0 then streamBufsize else data.length)
    else (file, 0)
  else
    let blocks := data.length / streamBufsize
    (encryptBlocks platform blocks file data, blocks * streamBufsize)

/-- `Write`, and what it leaves in `*written`: nothing when there is no file. -/
def write (platform : Platform) (file : FileStream) (data : List UInt8) :
    FileStream × StreamResult × Option Nat :=
  if file.isOpen = false then (file, .srEos, none)
  else
    let (after, result) :=
      if file.encryptedLog then encryptLog platform file data else fwrite platform file data
    (after, if result = 0 ∧ 0 < data.length then .srError else .srSuccess, some result)

end FileStream

structure FifoBuffer where
  state : StreamState
  buffer : List UInt8
  dataLength : Nat
  readPosition : Nat
  file : FileStream
  stored : dataLength ≤ buffer.length
  inside : readPosition < buffer.length ∨ readPosition = 0
  deriving DecidableEq, Repr

/-- What a call hands back to its caller, and the events it posts. -/
structure Answer where
  returned : Bool
  result : StreamResult
  /-- `*bytes_read` or `*bytes_written`, if the call sets it. -/
  count : Option Nat
  bytes : List UInt8
  posted : List StreamEvent
  deriving DecidableEq, Repr

def Answer.done : Answer :=
  { returned := true, result := .srSuccess, count := none, bytes := [], posted := [] }

namespace FifoBuffer

abbrev bufferLength (fifo : FifoBuffer) : Nat := fifo.buffer.length

def getBuffered (fifo : FifoBuffer) : Nat := fifo.dataLength

def getWriteRemaining (fifo : FifoBuffer) : Nat := fifo.bufferLength - fifo.dataLength

theorem readPosition_le (fifo : FifoBuffer) : fifo.readPosition ≤ fifo.buffer.length := by
  have := fifo.inside
  omega

/-- `SetCapacity`, given the memory that `new char[size]` returns. -/
def setCapacity (fifo : FifoBuffer) (memory : List UInt8) : FifoBuffer × Bool :=
  if small : memory.length < fifo.dataLength then (fifo, false)
  else if memory.length = fifo.bufferLength then (fifo, true)
  else
    ({ fifo with
        buffer := overwrite memory 0 (copyOut fifo.buffer fifo.readPosition fifo.dataLength)
        readPosition := 0
        stored := by
          rw [length_overwrite
            (by rw [length_copyOut fifo.readPosition_le fifo.stored]; omega)]
          omega
        inside := .inr rfl }, true)

/-- `ReadOffsetLocked` into the `bytes` bytes of `target`. All of them go to the file,
also those that were not read, and the file's count replaces the number of bytes read. -/
def readOffsetLocked (platform : Platform) (fifo : FifoBuffer) (target : List UInt8)
    (offset : Nat) : FifoBuffer × StreamResult × Option Nat × List UInt8 :=
  if fifo.dataLength ≤ offset then
    (fifo, if fifo.state = .ssClosed then .srEos else .srBlock, none, target)
  else
    let available := fifo.dataLength - offset
    let readPosition := (fifo.readPosition + offset) % fifo.bufferLength
    let copy := min target.length available
    let filled := overwrite target 0 (copyOut fifo.buffer readPosition copy)
    let (file, _, written) := fifo.file.write platform filled
    ({ fifo with file := file }, .srSuccess, some (written.getD copy), filled)

/-- `WriteOffsetLocked`: the buffer it leaves, and what it sets `*bytes_written` to. -/
def writeOffsetLocked (fifo : FifoBuffer) (bytes : List UInt8) (offset : Nat) :
    FifoBuffer × StreamResult × Option Nat :=
  if fifo.state = .ssClosed then (fifo, .srEos, none)
  else if full : fifo.bufferLength ≤ fifo.dataLength + offset then (fifo, .srBlock, none)
  else
    let available := fifo.bufferLength - fifo.dataLength - offset
    let writePosition := (fifo.readPosition + fifo.dataLength + offset) % fifo.bufferLength
    let copy := min bytes.length available
    have same : (copyIn fifo.buffer writePosition (bytes.take copy)).length =
        fifo.buffer.length := by
      have positive : 0 < fifo.buffer.length := by
        have : fifo.bufferLength = fifo.buffer.length := rfl
        omega
      apply length_copyIn (Nat.mod_lt _ positive).le
      have : fifo.bufferLength = fifo.buffer.length := rfl
      rw [List.length_take]
      omega
    ({ fifo with
        buffer := copyIn fifo.buffer writePosition (bytes.take copy)
        stored := same ▸ fifo.stored
        inside := same ▸ fifo.inside }, .srSuccess, some copy)

/-- The position that follows `readPosition` by `size`, and `size` bytes fewer. -/
def advance (fifo : FifoBuffer) (size : Nat) (fits : size ≤ fifo.dataLength)
    (positive : 0 < fifo.buffer.length) : FifoBuffer :=
  { fifo with
    readPosition := (fifo.readPosition + size) % fifo.bufferLength
    dataLength := fifo.dataLength - size
    stored := by
      have := fifo.stored
      omega
    inside := .inl (Nat.mod_lt _ positive) }

/-- `size` more of the bytes that lie in the buffer. -/
def extend (fifo : FifoBuffer) (size : Nat)
    (fits : fifo.dataLength + size ≤ fifo.buffer.length) : FifoBuffer :=
  { fifo with dataLength := fifo.dataLength + size, stored := fits }

/-- `Read` into `target`. It is `none` where `data_length_ -= copy` would pass below zero. -/
def read (platform : Platform) (fifo : FifoBuffer) (target : List UInt8) :
    Option (FifoBuffer × Answer) :=
  let wasWritable := decide (fifo.dataLength < fifo.bufferLength)
  let (after, result, count, filled) := fifo.readOffsetLocked platform target 0
  if result = .srSuccess then
    let copy := count.getD 0
    if fits : copy ≤ after.dataLength ∧ 0 < after.buffer.length then
      some (after.advance copy fits.1 fits.2,
        { Answer.done with
            count := some copy
            bytes := filled
            posted := if !wasWritable && decide (0 < copy) then [.seWrite] else [] })
    else none
  else some (after, { Answer.done with result := result, bytes := filled })

/-- `Write`. The reader is told of the first bytes in an empty buffer, and of a write that
does not fit. -/
def write (fifo : FifoBuffer) (bytes : List UInt8) : Option (FifoBuffer × Answer) :=
  let wasReadable := decide (0 < fifo.dataLength)
  let (after, result, count) := fifo.writeOffsetLocked bytes 0
  if result = .srSuccess then
    let copy := count.getD 0
    if fits : after.dataLength + copy ≤ after.buffer.length then
      some (after.extend copy fits,
        { Answer.done with
            count := some copy
            posted := if !wasReadable && decide (0 < copy) then [.seRead] else [] })
    else none
  else
    some (after, { Answer.done with
      result := result
      posted := if result = .srBlock then [.seRead] else [] })

def close (fifo : FifoBuffer) : FifoBuffer := { fifo with state := .ssClosed }

/-- The bytes that `GetReadData` points at. -/
def getReadData (fifo : FifoBuffer) : List UInt8 :=
  let size :=
    if fifo.readPosition + fifo.dataLength ≤ fifo.bufferLength then fifo.dataLength
    else fifo.bufferLength - fifo.readPosition
  (fifo.buffer.drop fifo.readPosition).take size

/-- `ConsumeReadData`, `none` where its assertion fails or it divides by zero. -/
def consumeReadData (fifo : FifoBuffer) (size : Nat) :
    Option (FifoBuffer × Answer) :=
  if fits : size ≤ fifo.dataLength ∧ 0 < fifo.buffer.length then
    let wasWritable := decide (fifo.dataLength < fifo.bufferLength)
    some (fifo.advance size fits.1 fits.2,
      { Answer.done with
          posted := if !wasWritable && decide (0 < size) then [.seWrite] else [] })
  else none

def writePosition (fifo : FifoBuffer) : Nat :=
  (fifo.readPosition + fifo.dataLength) % fifo.bufferLength

/-- The bytes from the write position on that can be written in one piece. -/
def writeBlock (fifo : FifoBuffer) : Nat :=
  if fifo.readPosition ≤ fifo.writePosition then fifo.bufferLength - fifo.writePosition
  else fifo.readPosition - fifo.writePosition

/-- `GetWriteBuffer`: the size it reports, none of a closed buffer, and `none` altogether
where it divides by zero. -/
def getWriteBuffer (fifo : FifoBuffer) : Option (FifoBuffer × Option Nat) :=
  if fifo.state = .ssClosed then some (fifo, none)
  else if fifo.bufferLength = 0 then none
  else
    let after : FifoBuffer :=
      if fifo.dataLength = 0 then { fifo with readPosition := 0, inside := .inr rfl } else fifo
    some (after, some after.writeBlock)

/-- The caller of `GetWriteBuffer` writes to the start of the block it was given. -/
def fillWriteBuffer (fifo : FifoBuffer) (bytes : List UInt8) : Option FifoBuffer :=
  if fits : fifo.writePosition + bytes.length ≤ fifo.buffer.length ∧
      bytes.length ≤ fifo.writeBlock then
    some { fifo with
      buffer := overwrite fifo.buffer fifo.writePosition bytes
      stored := by
        rw [length_overwrite fits.1]
        exact fifo.stored
      inside := by
        rw [length_overwrite fits.1]
        exact fifo.inside }
  else none

/-- `ConsumeWriteBuffer`, `none` where its assertion fails. -/
def consumeWriteBuffer (fifo : FifoBuffer) (size : Nat) :
    Option (FifoBuffer × Answer) :=
  if fits : fifo.dataLength + size ≤ fifo.buffer.length then
    let wasReadable := decide (0 < fifo.dataLength)
    some (fifo.extend size fits,
      { Answer.done with
          posted := if !wasReadable && decide (0 < size) then [.seRead] else [] })
  else none

inductive Call
  | getBuffered
  | getWriteRemaining
  | setCapacity (memory : List UInt8)
  | readOffset (target : List UInt8) (offset : Nat)
  | writeOffset (bytes : List UInt8) (offset : Nat)
  | read (target : List UInt8)
  | write (bytes : List UInt8)
  | close
  | getReadData
  | consumeReadData (size : Nat)
  | getWriteBuffer
  | fillWriteBuffer (bytes : List UInt8)
  | consumeWriteBuffer (size : Nat)
  deriving DecidableEq, Repr

def call (platform : Platform) (fifo : FifoBuffer) : Call → Option (FifoBuffer × Answer)
  | .getBuffered => some (fifo, { Answer.done with count := some fifo.getBuffered })
  | .getWriteRemaining => some (fifo, { Answer.done with count := some fifo.getWriteRemaining })
  | .setCapacity memory =>
      let (after, returned) := fifo.setCapacity memory
      some (after, { Answer.done with returned := returned })
  | .readOffset target offset =>
      let (after, result, count, filled) := fifo.readOffsetLocked platform target offset
      some (after, { Answer.done with result := result, count := count, bytes := filled })
  | .writeOffset bytes offset =>
      let (after, result, count) := fifo.writeOffsetLocked bytes offset
      some (after, { Answer.done with result := result, count := count })
  | .read target => fifo.read platform target
  | .write bytes => fifo.write bytes
  | .close => some (fifo.close, Answer.done)
  | .getReadData => some (fifo, { Answer.done with bytes := fifo.getReadData })
  | .consumeReadData size => fifo.consumeReadData size
  | .getWriteBuffer => do
      let (after, count) ← fifo.getWriteBuffer
      some (after, { Answer.done with count := count })
  | .fillWriteBuffer bytes => do
      let after ← fifo.fillWriteBuffer bytes
      some (after, Answer.done)
  | .consumeWriteBuffer size => fifo.consumeWriteBuffer size

end FifoBuffer

end FiberApp.Logging
