import FiberApp.Logging.FifoBuffer

/-! The log file: `LogMessage` writes its texts to a `FifoBuffer` through `WriteAll`, and the
thread of `BJNLogger` copies them from there to the file. -/

set_option autoImplicit false

namespace FiberApp.Logging

/-- A text given to `StreamInterface::WriteAll`. -/
structure Line where
  text : List UInt8
  totalWritten : Nat
  result : StreamResult
  deriving DecidableEq, Repr

def Line.accepted (line : Line) : List UInt8 := line.text.take line.totalWritten

/-- Where the logger thread stands: waiting for a message, at the test of the loop in
`OnMessage`, and between that test and `Read`. `bytesRead` has no value before a `Read`. -/
inductive LoggerThread
  | idle
  | testing (bytesRead : Nat)
  | reading (bufferedData bytesRead : Nat)
  deriving DecidableEq, Repr

structure BJNLogger where
  fifo : FifoBuffer
  fifoBuffer : List UInt8
  /-- The messages posted to `owner_`. -/
  posted : List StreamEvent
  thread : LoggerThread
  /-- The text that `WriteAll` is at. The lock of `LogMessage` admits one at a time. -/
  current : Option Line
  /-- The texts that `WriteAll` is done with. -/
  lines : List Line
  deriving DecidableEq, Repr

namespace BJNLogger

/-- A logger whose file has been opened; `memory` is what `new char[size]` returns. -/
def initial (memory : List UInt8) (encryptedLog : Bool) : BJNLogger :=
  { fifo :=
      { state := .ssOpen, buffer := memory, dataLength := 0, readPosition := 0,
        file := { isOpen := true, padBuffer := false, encryptedLog := encryptedLog,
                  contents := [], calls := 0 }
        stored := Nat.zero_le _
        inside := .inr rfl }
    fifoBuffer := List.replicate memory.length 0
    posted := []
    thread := .idle
    current := none
    lines := [] }

inductive Label
  | log (text : List UInt8)
  | writeAll
  | dispatch (unset : Nat)
  | getBuffered
  | read
  | flush
  | close
  deriving DecidableEq, Repr

/-- One turn of the loop in `WriteAll`, or its end. -/
def writeAll (logger : BJNLogger) (line : Line) : Option BJNLogger :=
  if line.totalWritten < line.text.length then do
    let (fifo, answer) ← logger.fifo.write (line.text.drop line.totalWritten)
    let after := { logger with fifo := fifo, posted := logger.posted ++ answer.posted }
    if answer.result = .srSuccess then
      some { after with
        current := some { line with
          totalWritten := line.totalWritten + answer.count.getD 0
          result := answer.result } }
    else
      some { after with
        current := none
        lines := logger.lines ++ [{ line with result := answer.result }] }
  else some { logger with current := none, lines := logger.lines ++ [line] }

/-- `Read(fifoBuffer_, buffered_data, &bytes_read, &err)`, and the test of `bytes_read`. -/
def readBuffered (platform : Platform) (logger : BJNLogger) (bufferedData bytesRead : Nat) :
    Option BJNLogger :=
  if bufferedData ≤ logger.fifoBuffer.length then do
    let (fifo, answer) ← logger.fifo.read platform (logger.fifoBuffer.take bufferedData)
    let bytesRead := answer.count.getD bytesRead
    some { logger with
      fifo := fifo
      fifoBuffer := answer.bytes ++ logger.fifoBuffer.drop bufferedData
      posted := logger.posted ++ answer.posted
      thread := if bytesRead = 0 then .idle else .testing bytesRead }
  else none

def step (platform : Platform) (logger : BJNLogger) : Label → Option BJNLogger
  | .log text =>
      match logger.current with
      | none =>
          some { logger with
            current := some { text := text, totalWritten := 0, result := .srSuccess } }
      | some _ => none
  | .writeAll =>
      match logger.current with
      | none => none
      | some line => logger.writeAll line
  | .dispatch unset =>
      match logger.thread, logger.posted with
      | .idle, .seRead :: rest => some { logger with posted := rest, thread := .testing unset }
      | .idle, .seWrite :: rest => some { logger with posted := rest }
      | _, _ => none
  | .getBuffered =>
      match logger.thread with
      | .testing bytesRead =>
          let bufferedData := logger.fifo.getBuffered
          some { logger with
            thread := if bufferedData = 0 then .idle else .reading bufferedData bytesRead }
      | _ => none
  | .read =>
      match logger.thread with
      | .reading bufferedData bytesRead => logger.readBuffered platform bufferedData bytesRead
      | _ => none
  | .flush =>
      some { logger with
        fifo := { logger.fifo with file := { logger.fifo.file with padBuffer := true } }
        posted := logger.posted ++ [.seRead] }
  | .close =>
      some { logger with
        fifo := { logger.fifo with file := { logger.fifo.file with isOpen := false } } }

end BJNLogger

end FiberApp.Logging
