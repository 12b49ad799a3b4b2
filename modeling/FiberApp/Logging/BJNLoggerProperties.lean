import Mathlib.Algebra.BigOperators.Ring.List
import Mathlib.Algebra.Ring.Nat
import FiberApp.Logging.BJNLogger
import FiberApp.Logging.FifoBufferProperties

/-! What becomes of the bytes that are logged: in which order they reach the file, and which
of them stay behind in the buffer. -/

set_option autoImplicit false

namespace FiberApp.Logging

open FiberApp.Foundation

namespace FileStream

def encryptedPiece (platform : Platform) (piece : List UInt8) : List UInt8 :=
  platform.encrypted (piece ++ List.replicate (streamBufsize - piece.length) 0)

/-- The file is a record of the bytes: the bytes themselves, or the encryption of one piece
of them after the other. Pieces are whole blocks, unless the file may be padded. -/
def Records (platform : Platform) (file : FileStream) (bytes : List UInt8) : Prop :=
  if file.encryptedLog then
    ∃ pieces : List (List UInt8),
      pieces.flatten = bytes ∧ file.contents = pieces.flatMap (encryptedPiece platform) ∧
        ∀ piece ∈ pieces, piece.length = streamBufsize ∨
          file.padBuffer = true ∧ 0 < piece.length ∧ piece.length < streamBufsize
  else file.contents = bytes

/-- The calls of `fwrite` take each encrypted block whole. -/
def WholeBlocks (platform : Platform) : Prop :=
  ∀ calls block, (platform.encrypted block).length ≤ platform.takes calls

/-- Every call of `fwrite` takes something. -/
def Progresses (platform : Platform) : Prop := ∀ calls, 0 < platform.takes calls

/-- What a write leaves of a file besides its contents. -/
structure SameSettings (file after : FileStream) : Prop where
  isOpen : after.isOpen = file.isOpen
  padBuffer : after.padBuffer = file.padBuffer
  encryptedLog : after.encryptedLog = file.encryptedLog

theorem SameSettings.refl (file : FileStream) : SameSettings file file := ⟨rfl, rfl, rfl⟩

theorem SameSettings.trans {first second third : FileStream}
    (earlier : SameSettings first second) (later : SameSettings second third) :
    SameSettings first third :=
  ⟨later.isOpen.trans earlier.isOpen, later.padBuffer.trans earlier.padBuffer,
    later.encryptedLog.trans earlier.encryptedLog⟩

theorem fwrite_settings (platform : Platform) (file : FileStream) (data : List UInt8) :
    SameSettings file (fwrite platform file data).1 := ⟨rfl, rfl, rfl⟩

theorem fwrite_block {platform : Platform} (whole : WholeBlocks platform) (file : FileStream)
    (block : List UInt8) :
    (fwrite platform file (platform.encrypted block)).1.contents =
      file.contents ++ platform.encrypted block := by
  have all : min (platform.takes file.calls) (platform.encrypted block).length =
      (platform.encrypted block).length := Nat.min_eq_right (whole file.calls block)
  simp only [fwrite, all, List.take_length]

theorem encryptBlocks_settings (platform : Platform) (blocks : Nat) (file : FileStream)
    (data : List UInt8) : SameSettings file (encryptBlocks platform blocks file data) := by
  induction blocks generalizing file data with
  | zero => exact .refl file
  | succ blocks ih => exact (fwrite_settings platform file _).trans (ih _ _)

theorem encryptBlocks_contents {platform : Platform} (whole : WholeBlocks platform)
    {blocks : Nat} {file : FileStream} {data : List UInt8}
    (enough : blocks * streamBufsize ≤ data.length) :
    ∃ pieces : List (List UInt8),
      pieces.flatten = data.take (blocks * streamBufsize) ∧
        (∀ piece ∈ pieces, piece.length = streamBufsize) ∧
          (encryptBlocks platform blocks file data).contents =
            file.contents ++ pieces.flatMap (encryptedPiece platform) := by
  induction blocks generalizing file data with
  | zero => exact ⟨[], by simp, by simp, by simp [encryptBlocks]⟩
  | succ blocks ih =>
      have size : (data.take streamBufsize).length = streamBufsize := by
        rw [List.length_take]
        exact Nat.min_eq_left ((Nat.le_mul_of_pos_left _ blocks.succ_pos).trans enough)
      have fewer : blocks * streamBufsize ≤ (data.drop streamBufsize).length := by
        rw [List.length_drop, Nat.succ_mul] at *
        omega
      obtain ⟨pieces, joined, sizes, contents⟩ := ih fewer
      refine ⟨data.take streamBufsize :: pieces, ?_, ?_, ?_⟩
      · rw [List.flatten_cons, joined, Nat.succ_mul, Nat.add_comm, List.take_add]
      · intro piece member
        rcases List.mem_cons.mp member with rfl | member
        · exact size
        · exact sizes piece member
      · rw [encryptBlocks, contents, fwrite_block whole, List.append_assoc, List.flatMap_cons,
          encryptedPiece, size, Nat.sub_self, List.replicate_zero, List.append_nil]

theorem Records.append_pieces {platform : Platform} {file after : FileStream}
    {bytes : List UInt8} (encrypted : file.encryptedLog = true)
    (recorded : file.Records platform bytes) (same : SameSettings file after)
    {pieces : List (List UInt8)}
    (contents : after.contents = file.contents ++ pieces.flatMap (encryptedPiece platform))
    (sizes : ∀ piece ∈ pieces, piece.length = streamBufsize ∨
      file.padBuffer = true ∧ 0 < piece.length ∧ piece.length < streamBufsize) :
    after.Records platform (bytes ++ pieces.flatten) := by
  rw [Records, if_pos encrypted] at recorded
  obtain ⟨earlier, joined, written, bounds⟩ := recorded
  rw [Records, if_pos (same.encryptedLog.trans encrypted)]
  refine ⟨earlier ++ pieces, ?_, ?_, ?_⟩
  · rw [List.flatten_append, joined]
  · rw [contents, written, List.flatMap_append]
  · intro piece member
    rw [same.padBuffer]
    rcases List.mem_append.mp member with member | member
    · exact bounds piece member
    · exact sizes piece member

theorem Records.setPadding {platform : Platform} {file : FileStream} {bytes : List UInt8}
    (recorded : file.Records platform bytes) :
    ({ file with padBuffer := true } : FileStream).Records platform bytes := by
  rw [Records] at recorded ⊢
  split at recorded
  · rename_i encrypted
    obtain ⟨pieces, joined, written, sizes⟩ := recorded
    rw [if_pos encrypted]
    refine ⟨pieces, joined, written, fun piece member => ?_⟩
    exact (sizes piece member).imp_right fun short => ⟨rfl, short.2⟩
  · rename_i plain
    rw [if_neg plain]
    exact recorded

/-- A write to an open file records the first bytes it is given and reports how many. -/
theorem write_records {platform : Platform} {file : FileStream} {bytes data : List UInt8}
    (opened : file.isOpen = true) (some : data ≠ [])
    (whole : file.encryptedLog = true → WholeBlocks platform)
    (recorded : file.Records platform bytes) :
    ∃ copy ≤ data.length, (file.write platform data).2.2 = .some copy ∧
      SameSettings file (file.write platform data).1 ∧
        (file.write platform data).1.Records platform (bytes ++ data.take copy) ∧
          (Progresses platform → file.encryptedLog = false ∨ file.padBuffer = true →
            0 < copy) := by
  have positive : 0 < data.length := List.length_pos_of_ne_nil some
  rw [write, if_neg (by rw [opened]; decide)]
  cases encrypted : file.encryptedLog with
  | false =>
      refine ⟨min (platform.takes file.calls) data.length, Nat.min_le_right _ _, rfl,
        fwrite_settings platform file data, ?_, ?_⟩
      · have plain : (fwrite platform file data).1.encryptedLog = false := encrypted
        change (fwrite platform file data).1.Records platform _
        rw [Records, if_neg (by rw [encrypted]; decide)] at recorded
        rw [Records, if_neg (by rw [plain]; decide)]
        exact congrArg (· ++ _) recorded
      · intro progress _
        have := progress file.calls
        omega
  | true =>
      have blocks := whole encrypted
      simp only [↓reduceIte, encryptLog]
      by_cases short : data.length < streamBufsize
      · rw [if_pos short]
        cases padded : file.padBuffer with
        | false =>
            refine ⟨0, Nat.zero_le _, rfl, .refl file, ?_, ?_⟩
            · rw [List.take_zero, List.append_nil]
              exact recorded
            · rintro - (plain | pads)
              · cases plain
              · cases pads
        | true =>
            have contents : (encryptBlocks platform 1 file
                (data ++ List.replicate (streamBufsize - data.length) 0)).contents =
                  file.contents ++ [data].flatMap (encryptedPiece platform) := by
              simp only [encryptBlocks, fwrite_block blocks, List.flatMap_singleton,
                encryptedPiece]
              rw [List.take_of_length_le]
              rw [List.length_append, List.length_replicate]
              omega
            have same := encryptBlocks_settings platform 1 file
              (data ++ List.replicate (streamBufsize - data.length) 0)
            refine ⟨data.length, le_rfl, ?_, same, ?_, fun _ _ => positive⟩
            · simp only [↓reduceIte, if_neg positive.ne']
            · have pieces := recorded.append_pieces encrypted same contents (by
                simpa only [List.mem_singleton, forall_eq, padded, true_and] using
                  .inr ⟨positive, short⟩)
              simpa only [↓reduceIte, List.flatten_cons, List.flatten_nil, List.append_nil,
                List.take_length] using pieces
      · rw [if_neg short]
        have fits : data.length / streamBufsize * streamBufsize ≤ data.length :=
          Nat.div_mul_le_self _ _
        obtain ⟨pieces, joined, sizes, contents⟩ : ∃ pieces : List (List UInt8), _ ∧ _ ∧
            (encryptBlocks platform _ file data).contents = _ := encryptBlocks_contents blocks fits
        have same := encryptBlocks_settings platform (data.length / streamBufsize) file data
        refine ⟨_, fits, rfl, same, ?_, fun _ _ => ?_⟩
        · rw [← joined]
          exact recorded.append_pieces encrypted same contents
            fun piece member => .inl (sizes piece member)
        · exact Nat.mul_pos (Nat.div_pos (Nat.le_of_not_lt short) (by decide)) (by decide)

end FileStream

/-- `WriteAll` ended because all was written, or because the buffer was full. -/
def Line.Finished (line : Line) : Prop :=
  (line.result = .srSuccess ∧ line.totalWritten = line.text.length) ∨
    (line.result = .srBlock ∧ line.totalWritten < line.text.length)

theorem Line.Finished.accepted_eq_iff {line : Line} (finished : line.Finished) :
    line.accepted = line.text ↔ line.result = .srSuccess := by
  rw [accepted, List.take_eq_self_iff]
  obtain ⟨result, whole⟩ | ⟨result, cut⟩ := finished
  · rw [result]
    exact ⟨fun _ => rfl, fun _ => whole.ge⟩
  · rw [result]
    exact ⟨fun all => absurd all (by omega), nofun⟩

namespace BJNLogger

/-- The bytes that `WriteAll` got into the buffer, text after text. -/
def accepted (logger : BJNLogger) : List UInt8 :=
  (logger.lines ++ logger.current.toList).flatMap Line.accepted

/-- What a turn of `WriteAll` at a line can do. -/
inductive WroteAll (logger : BJNLogger) (line : Line) : BJNLogger → Prop
  | finished (done : line.text.length ≤ line.totalWritten) :
      WroteAll logger line { logger with current := none, lines := logger.lines ++ [line] }
  | refused {fifo : FifoBuffer} (file : fifo.file = logger.fifo.file)
      (state : fifo.state = .ssOpen) (bufferLength : fifo.bufferLength = logger.fifo.bufferLength)
      (unfinished : line.totalWritten < line.text.length)
      (contents : fifo.contents = logger.fifo.contents) :
      WroteAll logger line { logger with
        fifo := fifo
        posted := logger.posted ++ [.seRead]
        current := none
        lines := logger.lines ++ [{ line with result := .srBlock }] }
  | accepted {fifo : FifoBuffer} {copy : Nat} {events : List StreamEvent}
      (file : fifo.file = logger.fifo.file) (state : fifo.state = .ssOpen)
      (bufferLength : fifo.bufferLength = logger.fifo.bufferLength)
      (contents : fifo.contents =
        logger.fifo.contents ++ (line.text.drop line.totalWritten).take copy)
      (within : line.totalWritten + copy ≤ line.text.length)
      (told : events = if logger.fifo.contents = [] then [.seRead] else []) :
      WroteAll logger line { logger with
        fifo := fifo
        posted := logger.posted ++ events
        current := some { line with
          totalWritten := line.totalWritten + copy
          result := .srSuccess } }

theorem writeAll_wroteAll {logger next : BJNLogger} {line : Line}
    (opened : logger.fifo.state = .ssOpen) (taken : logger.writeAll line = some next) :
    WroteAll logger line next := by
  rw [writeAll] at taken
  split at taken
  · rename_i unfinished
    have rest : line.text.drop line.totalWritten ≠ [] := by
      rw [Ne, List.drop_eq_nil_iff]
      omega
    obtain ⟨fifo, answer, called, written⟩ :=
      FifoBuffer.write_written (line.text.drop line.totalWritten) opened
    rw [called] at taken
    obtain ⟨refused, -, same, events⟩ | ⟨success, copy, counted, short, appended, progress,
      events⟩ := written.outcome
    · simp only [Option.bind_eq_bind, Option.bind_some, refused, reduceCtorEq, ↓reduceIte, events,
        Option.some.injEq] at taken
      rw [← taken]
      exact .refused written.file written.state written.bufferLength unfinished same
    · simp only [Option.bind_eq_bind, Option.bind_some, success, ↓reduceIte, counted,
        Option.getD_some, Option.some.injEq] at taken
      rw [← taken]
      rw [List.length_drop] at short
      refine .accepted written.file written.state written.bufferLength appended (by omega) ?_
      simp only [events, progress rest, and_true]
  · cases taken
    exact .finished (by omega)

/-- What a `Read` of the logger thread can do: the file takes `copy` bytes. -/
structure ReadOut (platform : Platform) (logger : BJNLogger) (bufferedData copy : Nat)
    (next : BJNLogger) : Prop where
  file : next.fifo.file =
    (logger.fifo.file.write platform (logger.fifo.contents.take bufferedData)).1
  state : next.fifo.state = logger.fifo.state
  bufferLength : next.fifo.bufferLength = logger.fifo.bufferLength
  contents : next.fifo.contents = logger.fifo.contents.drop copy
  memory : next.fifoBuffer.length = logger.fifoBuffer.length
  posted : ∃ events, next.posted = logger.posted ++ events ∧ StreamEvent.seRead ∉ events
  thread : next.thread = if copy = 0 then .idle else .testing copy
  current : next.current = logger.current
  lines : next.lines = logger.lines

theorem readBuffered_readOut {platform : Platform} {logger : BJNLogger}
    {bufferedData bytesRead copy : Nat} (some : 0 < bufferedData)
    (fits : bufferedData ≤ logger.fifo.dataLength)
    (memory : logger.fifo.bufferLength = logger.fifoBuffer.length)
    (taken : (logger.fifo.file.write platform (logger.fifo.contents.take bufferedData)).2.2.getD
      bufferedData = copy) (within : copy ≤ bufferedData) :
    ∃ next, logger.readBuffered platform bufferedData bytesRead = .some next ∧
      ReadOut platform logger bufferedData copy next := by
  have stored : logger.fifo.dataLength ≤ logger.fifo.bufferLength := logger.fifo.stored
  have target : (logger.fifoBuffer.take bufferedData).length = bufferedData := by
    rw [List.length_take]
    omega
  rw [← target] at taken fits some within
  obtain ⟨fifo, answer, called, out⟩ := FifoBuffer.read_readOut some fits taken within
  rw [target] at out
  rw [readBuffered, if_pos (by omega), called]
  simp only [Option.bind_eq_bind, Option.bind_some, out.count, Option.getD_some]
  refine ⟨_, rfl, out.file, out.state, out.bufferLength, out.contents, ?_,
    ⟨answer.posted, rfl, out.posted⟩, rfl, rfl, rfl⟩
  rw [List.length_append, out.length, List.length_drop]
  omega

/-- What holds while the file is open. -/
structure Sound (platform : Platform) (logger : BJNLogger) : Prop where
  state : logger.fifo.state = .ssOpen
  opened : logger.fifo.file.isOpen = true
  whole : logger.fifo.file.encryptedLog = true → FileStream.WholeBlocks platform
  memory : logger.fifo.bufferLength = logger.fifoBuffer.length
  reading : ∀ bufferedData bytesRead, logger.thread = .reading bufferedData bytesRead →
    0 < bufferedData ∧ bufferedData ≤ logger.fifo.contents.length
  finished : ∀ line ∈ logger.lines, line.Finished
  current : ∀ line ∈ logger.current,
    line.result = .srSuccess ∧ line.totalWritten ≤ line.text.length
  recorded : ∃ bytes, logger.fifo.file.Records platform bytes ∧
    bytes ++ logger.fifo.contents = logger.accepted

theorem initial_sound {platform : Platform} (memory : List UInt8) {encryptedLog : Bool}
    (whole : encryptedLog = true → FileStream.WholeBlocks platform) :
    Sound platform (initial memory encryptedLog) where
  state := rfl
  opened := rfl
  whole := whole
  memory := List.length_replicate.symm
  reading := nofun
  finished := nofun
  current := nofun
  recorded := by
    refine ⟨[], ?_, rfl⟩
    rw [FileStream.Records]
    split
    · exact ⟨[], rfl, rfl, nofun⟩
    · rfl

theorem accepted_of_current {logger : BJNLogger} {line : Line}
    (current : logger.current = some line) :
    logger.accepted = logger.lines.flatMap Line.accepted ++ line.accepted := by
  rw [accepted, current, Option.toList_some, List.flatMap_append, List.flatMap_singleton]

/-- Reading leaves what was buffered beyond the bytes read, so more can be buffered while
the thread stands between the test and `Read`. -/
theorem WroteAll.sound {platform : Platform} {logger next : BJNLogger} {line : Line}
    (sound : Sound platform logger) (current : logger.current = some line)
    (wrote : WroteAll logger line next) : Sound platform next := by
  obtain ⟨bytes, recorded, ordered⟩ := sound.recorded
  obtain ⟨success, short⟩ := sound.current line current
  rw [accepted_of_current current] at ordered
  cases wrote with
  | finished done =>
      refine { sound with finished := ?_, current := nofun, recorded := ⟨bytes, recorded, ?_⟩ }
      · intro other member
        rcases List.mem_append.mp member with member | member
        · exact sound.finished other member
        · cases List.mem_singleton.mp member
          exact .inl ⟨success, by omega⟩
      · rw [ordered, BJNLogger.accepted, Option.toList_none, List.append_nil, List.flatMap_append,
          List.flatMap_singleton]
  | refused file state bufferLength unfinished contents =>
      refine ⟨state, file ▸ sound.opened, file ▸ sound.whole, bufferLength.trans sound.memory,
        contents ▸ sound.reading, ?_, nofun, bytes, file ▸ recorded, ?_⟩
      · intro other member
        rcases List.mem_append.mp member with member | member
        · exact sound.finished other member
        · cases List.mem_singleton.mp member
          exact .inr ⟨rfl, unfinished⟩
      · rw [contents, ordered, BJNLogger.accepted, Option.toList_none, List.append_nil,
          List.flatMap_append, List.flatMap_singleton]
        rfl
  | accepted file state bufferLength contents within told =>
      refine ⟨state, file ▸ sound.opened, file ▸ sound.whole, bufferLength.trans sound.memory,
        ?_, sound.finished, ?_, bytes, file ▸ recorded, ?_⟩
      · intro bufferedData bytesRead stands
        obtain ⟨some, fits⟩ := sound.reading bufferedData bytesRead stands
        rw [contents, List.length_append]
        exact ⟨some, fits.trans (Nat.le_add_right _ _)⟩
      · rintro other same
        cases same
        exact ⟨rfl, within⟩
      · rw [contents, ← List.append_assoc, ordered, accepted_of_current rfl, Line.accepted,
          Line.accepted, List.take_add, List.append_assoc]

theorem ReadOut.sound {platform : Platform} {logger next : BJNLogger}
    {bufferedData copy : Nat} {bytes : List UInt8} (sound : Sound platform logger)
    (ordered : bytes ++ logger.fifo.contents = logger.accepted)
    (out : ReadOut platform logger bufferedData copy next)
    (same : FileStream.SameSettings logger.fifo.file next.fifo.file)
    (recorded : next.fifo.file.Records platform (bytes ++ logger.fifo.contents.take copy)) :
    Sound platform next := by
  refine ⟨out.state.trans sound.state, same.isOpen.trans sound.opened,
    same.encryptedLog ▸ sound.whole, ?_, ?_, out.lines ▸ sound.finished,
    out.current ▸ sound.current, _, recorded, ?_⟩
  · rw [out.bufferLength, out.memory]
    exact sound.memory
  · intro bufferedData bytesRead reading
    rw [out.thread] at reading
    split at reading <;> cases reading
  · rw [out.contents, List.append_assoc, List.take_append_drop, ordered, accepted, accepted,
      out.lines, out.current]

/-- A `Read` of the logger thread stays within its memory, and takes no more bytes than
were buffered. -/
theorem Sound.read {platform : Platform} {logger : BJNLogger} {bufferedData bytesRead : Nat}
    (sound : Sound platform logger) (stands : logger.thread = .reading bufferedData bytesRead) :
    ∃ next copy, logger.readBuffered platform bufferedData bytesRead = some next ∧
      ReadOut platform logger bufferedData copy next ∧ Sound platform next ∧
        FileStream.SameSettings logger.fifo.file next.fifo.file ∧
          (FileStream.Progresses platform → logger.fifo.file.encryptedLog = false ∨
            logger.fifo.file.padBuffer = true → 0 < copy) := by
  obtain ⟨some, fits⟩ := sound.reading bufferedData bytesRead stands
  have all : (logger.fifo.contents.take bufferedData).length = bufferedData := by
    rw [List.length_take]
    exact Nat.min_eq_left fits
  have data : logger.fifo.contents.take bufferedData ≠ [] :=
    List.ne_nil_of_length_pos (by omega)
  obtain ⟨bytes, records, ordered⟩ := sound.recorded
  obtain ⟨copy, within, counted, same, recorded, progress⟩ :=
    FileStream.write_records sound.opened data sound.whole records
  rw [all] at within
  have taken : (logger.fifo.file.write platform
      (logger.fifo.contents.take bufferedData)).2.2.getD bufferedData = copy := by
    rw [counted, Option.getD_some]
  obtain ⟨next, read, out⟩ := readBuffered_readOut some
    (fits.trans_eq logger.fifo.length_contents) sound.memory taken within
  rw [← out.file] at same recorded
  rw [List.take_take, Nat.min_eq_left within] at recorded
  exact ⟨next, copy, read, out, out.sound sound ordered same recorded, same, progress⟩

theorem step_sound {platform : Platform} {logger next : BJNLogger} {label : Label}
    (sound : Sound platform logger) (stays : label ≠ .close)
    (taken : step platform logger label = some next) : Sound platform next := by
  cases label with
  | log text =>
      simp only [step] at taken
      split at taken
      · rename_i free
        cases taken
        refine { sound with current := ?_, recorded := ?_ }
        · rintro line same
          cases same
          exact ⟨rfl, Nat.zero_le _⟩
        · obtain ⟨bytes, records, ordered⟩ := sound.recorded
          refine ⟨bytes, records, ordered.trans ?_⟩
          simp only [accepted, free, Option.toList_none, Option.toList_some, List.append_nil,
            List.flatMap_append, List.flatMap_singleton, Line.accepted, List.take_zero]
      · cases taken
  | writeAll =>
      simp only [step] at taken
      split at taken
      · cases taken
      · rename_i line current
        exact (writeAll_wroteAll sound.state taken).sound sound current
  | dispatch unset =>
      simp only [step] at taken
      split at taken
      · cases taken
        exact { sound with reading := nofun }
      · rename_i stands _
        cases taken
        exact { sound with reading := sound.reading }
      · cases taken
  | getBuffered =>
      simp only [step] at taken
      split at taken
      · cases taken
        refine { sound with reading := ?_ }
        intro bufferedData bytesRead reading
        dsimp only at reading
        split at reading
        · cases reading
        · rename_i some
          cases reading
          rw [FifoBuffer.length_contents]
          exact ⟨Nat.pos_of_ne_zero some, le_rfl⟩
      · cases taken
  | read =>
      simp only [step] at taken
      split at taken
      · rename_i bufferedData bytesRead stands
        obtain ⟨after, copy, read, -, kept, -⟩ := sound.read stands
        cases read.symm.trans taken
        exact kept
      · cases taken
  | flush =>
      cases taken
      obtain ⟨bytes, records, ordered⟩ := sound.recorded
      exact { sound with recorded := ⟨bytes, records.setPadding, ordered⟩ }
  | close => exact absurd rfl stays

theorem reached_sound {platform : Platform} {memory : List UInt8} {encryptedLog : Bool}
    (whole : encryptedLog = true → FileStream.WholeBlocks platform) {labels : List Label}
    {final : BJNLogger} (stays : .close ∉ labels)
    (executed : execute (step platform) (initial memory encryptedLog) labels = some final) :
    Sound platform final := by
  have guarded : Guarded (step platform) (fun _ label => label ≠ .close)
      (initial memory encryptedLog) labels :=
    guarded_of_mem fun label member same => stays (same ▸ member)
  exact execute_preserves (Sound platform)
    (fun _ _ _ sound kept taken => step_sound sound kept taken) (initial_sound memory whole)
    guarded executed

/-- Everything that `WriteAll` got into the buffer is in the file or still buffered, in the
order it was logged, and a text is cut short only by a full buffer. -/
theorem log_recorded {platform : Platform} {memory : List UInt8} {encryptedLog : Bool}
    (whole : encryptedLog = true → FileStream.WholeBlocks platform) {labels : List Label}
    {final : BJNLogger} (stays : .close ∉ labels)
    (executed : execute (step platform) (initial memory encryptedLog) labels = some final) :
    (∃ bytes, final.fifo.file.Records platform bytes ∧
        bytes ++ final.fifo.contents =
          (final.lines ++ final.current.toList).flatMap Line.accepted) ∧
      (∀ line ∈ final.lines, line.accepted <+: line.text ∧
        (line.result = .srSuccess ∨ line.result = .srBlock) ∧
          (line.accepted = line.text ↔ line.result = .srSuccess)) ∧
        ∀ bufferedData bytesRead, final.thread = .reading bufferedData bytesRead →
          (step platform final .read).isSome := by
  have sound := reached_sound whole stays executed
  refine ⟨sound.recorded, fun line member => ?_, fun bufferedData bytesRead stands => ?_⟩
  · have finished := sound.finished line member
    exact ⟨List.take_prefix .., finished.imp And.left And.left, finished.accepted_eq_iff⟩
  · obtain ⟨next, copy, read, -⟩ := sound.read stands
    simp only [step, stands, read]
    rfl

/-- A text of three bytes is logged and read, then one of a single byte is logged. -/
def twoTexts : List Label :=
  [.log [1, 2, 3], .writeAll, .writeAll, .dispatch 7, .getBuffered, .read, .log [4], .writeAll]

def blockPlatform : Platform :=
  { takes := fun _ => 128, encrypted := fun data => data.take 128 }

theorem blockPlatform_whole : FileStream.WholeBlocks blockPlatform := fun _ block =>
  List.length_take_le 128 block

theorem log_recorded_twoTexts :
    ∃ final, execute (step blockPlatform) (initial [0, 0, 0, 0] true) twoTexts = some final ∧
      ∃ bytes, final.fifo.file.Records blockPlatform bytes ∧
        bytes ++ final.fifo.contents = [1, 2, 3, 4] := by
  have ran : execute (step blockPlatform) (initial [0, 0, 0, 0] true) twoTexts = some _ := rfl
  obtain ⟨⟨bytes, records, ordered⟩, -⟩ :=
    log_recorded (fun _ => blockPlatform_whole) (by decide) ran
  exact ⟨_, ran, bytes, records, ordered⟩

/-- Bytes that are buffered have woken the thread, or will. -/
def Woken (logger : BJNLogger) : Prop :=
  logger.fifo.contents ≠ [] → logger.thread ≠ .idle ∨ .seRead ∈ logger.posted

/-- The file takes something of every write, unless it takes whole blocks only. -/
def Padded (logger : BJNLogger) : Prop :=
  logger.fifo.file.encryptedLog = false ∨ logger.fifo.file.padBuffer = true

theorem WroteAll.woken {logger next : BJNLogger} {line : Line} (woken : Woken logger)
    (wrote : WroteAll logger line next) : Woken next := by
  cases wrote with
  | finished => exact woken
  | refused => exact fun _ => .inr (by simp)
  | accepted _ _ _ contents _ told =>
      intro _
      by_cases empty : logger.fifo.contents = []
      · exact .inr (by simp [told, empty])
      · exact (woken empty).imp_right fun pending => List.mem_append_left _ pending

theorem step_woken {platform : Platform} (progress : FileStream.Progresses platform)
    {logger next : BJNLogger} {label : Label} (sound : Sound platform logger)
    (woken : Padded logger → Woken logger) (taken : step platform logger label = some next)
    (padded : Padded next) : Woken next := by
  cases label with
  | log text =>
      simp only [step] at taken
      split at taken
      · cases taken
        exact woken padded
      · cases taken
  | writeAll =>
      simp only [step] at taken
      split at taken
      · cases taken
      · have wrote := writeAll_wroteAll sound.state taken
        refine wrote.woken (woken ?_)
        cases wrote with
        | finished => exact padded
        | refused file =>
            rw [Padded] at padded ⊢
            rwa [← file]
        | accepted file =>
            rw [Padded] at padded ⊢
            rwa [← file]
  | dispatch unset =>
      simp only [step] at taken
      split at taken
      · cases taken
        exact fun _ => .inl nofun
      · rename_i idle posted
        cases taken
        intro some
        obtain busy | pending := woken padded some
        · exact absurd idle busy
        · rw [posted, List.mem_cons] at pending
          exact .inr (pending.resolve_left nofun)
      · cases taken
  | getBuffered =>
      simp only [step] at taken
      split at taken
      · cases taken
        intro some
        have buffered : logger.fifo.getBuffered ≠ 0 := fun none =>
          some (logger.fifo.contents_eq_nil_iff.mpr none)
        simp only [if_neg buffered]
        exact .inl nofun
      · cases taken
  | read =>
      simp only [step] at taken
      split at taken
      · rename_i bufferedData bytesRead stands
        obtain ⟨after, copy, read, out, -, same, progressed⟩ := sound.read stands
        cases read.symm.trans taken
        have positive : 0 < copy := progressed progress (by
          rw [Padded, same.encryptedLog, same.padBuffer] at padded
          exact padded)
        intro _
        rw [out.thread, if_neg positive.ne']
        exact .inl nofun
      · cases taken
  | flush =>
      cases taken
      exact fun _ => .inr (by simp)
  | close =>
      cases taken
      exact woken padded

/-- A plain log, and an encrypted one that has been flushed, keeps nothing back: when the
thread is at rest with nothing to read, all that was accepted is in the file. -/
theorem quiet_log_complete {platform : Platform} (progress : FileStream.Progresses platform)
    {memory : List UInt8} {encryptedLog : Bool}
    (whole : encryptedLog = true → FileStream.WholeBlocks platform) {labels : List Label}
    {final : BJNLogger} (stays : .close ∉ labels)
    (executed : execute (step platform) (initial memory encryptedLog) labels = some final)
    (padded : Padded final) (idle : final.thread = .idle) (quiet : .seRead ∉ final.posted) :
    final.fifo.file.Records platform
      ((final.lines ++ final.current.toList).flatMap Line.accepted) := by
  have guarded : Guarded (step platform) (fun _ label => label ≠ .close)
      (initial memory encryptedLog) labels :=
    guarded_of_mem fun label member same => stays (same ▸ member)
  have kept := execute_preserves
    (fun logger => Sound platform logger ∧ (Padded logger → Woken logger))
    (fun _ _ _ held kept taken => ⟨step_sound held.1 kept taken,
      step_woken progress held.1 held.2 taken⟩)
    ⟨initial_sound memory whole, fun _ some => absurd rfl some⟩ guarded executed
  have nothing : final.fifo.contents = [] := by
    by_contra some
    obtain busy | pending := kept.2 padded some
    · exact busy idle
    · exact quiet pending
  obtain ⟨bytes, records, ordered⟩ := kept.1.recorded
  rw [nothing, List.append_nil] at ordered
  change final.fifo.file.Records platform final.accepted
  rw [← ordered]
  exact records

theorem quiet_log_complete_oneText :
    ∃ final, execute (step blockPlatform) (initial [0, 0, 0, 0] false)
        [.log [1, 2], .writeAll, .dispatch 7, .getBuffered, .read, .getBuffered] = some final ∧
      final.fifo.file.Records blockPlatform [1, 2] := by
  have ran : execute (step blockPlatform) (initial [0, 0, 0, 0] false)
      [.log [1, 2], .writeAll, .dispatch 7, .getBuffered, .read, .getBuffered] = some _ := rfl
  exact ⟨_, ran, quiet_log_complete (fun _ => Nat.succ_pos 127) (fun _ => blockPlatform_whole)
    (by decide) ran (.inl rfl) rfl (by decide)⟩

/-- The thread is at rest, no event is pending, and the buffer, which is not empty, takes
writes without posting one. -/
structure Stalled (file : List UInt8) (logger : BJNLogger) : Prop where
  state : logger.fifo.state = .ssOpen
  idle : logger.thread = .idle
  quiet : .seRead ∉ logger.posted
  buffered : logger.fifo.contents ≠ []
  contents : logger.fifo.file.contents = file

/-- Some text logged since was cut short. -/
def CutSince (earlier : List Line) (logger : BJNLogger) : Prop :=
  ∃ newer, logger.lines = earlier ++ newer ∧
    ∃ line ∈ newer, line.result = .srBlock ∧ line.accepted ≠ line.text

theorem CutSince.append {earlier : List Line} {logger next : BJNLogger} {newer : List Line}
    (cut : CutSince earlier logger) (lines : next.lines = logger.lines ++ newer) :
    CutSince earlier next := by
  obtain ⟨before, same, line, member, result⟩ := cut
  exact ⟨before ++ newer, by rw [lines, same, List.append_assoc], line,
    List.mem_append_left _ member, result⟩

theorem step_lines {platform : Platform} {logger next : BJNLogger} {label : Label}
    (taken : step platform logger label = some next) :
    ∃ newer, next.lines = logger.lines ++ newer := by
  cases label with
  | writeAll =>
      simp only [step] at taken
      split at taken
      · cases taken
      · rename_i line _
        simp only [writeAll, Option.bind_eq_bind] at taken
        split at taken
        · obtain ⟨⟨fifo, answer⟩, -, done⟩ := Option.bind_eq_some_iff.mp taken
          dsimp only at done
          split at done
          · cases done
            exact ⟨[], (List.append_nil _).symm⟩
          · cases done
            exact ⟨_, rfl⟩
        · cases taken
          exact ⟨_, rfl⟩
  | read =>
      simp only [step] at taken
      split at taken
      · simp only [readBuffered, Option.bind_eq_bind] at taken
        split at taken
        · obtain ⟨⟨fifo, answer⟩, -, done⟩ := Option.bind_eq_some_iff.mp taken
          cases done
          exact ⟨[], (List.append_nil _).symm⟩
        · cases taken
      · cases taken
  | log | dispatch | getBuffered | flush | close =>
      simp only [step] at taken
      repeat' split at taken
      all_goals cases taken
      all_goals exact ⟨[], (List.append_nil _).symm⟩

theorem Stalled.step {platform : Platform} {file : List UInt8} {logger next : BJNLogger}
    {label : Label} (stalled : Stalled file logger) (unflushed : label ≠ .flush)
    (taken : step platform logger label = some next) :
    Stalled file next ∨ CutSince logger.lines next := by
  cases label with
  | log text =>
      simp only [BJNLogger.step] at taken
      split at taken
      · cases taken
        exact .inl { stalled with }
      · cases taken
  | writeAll =>
      simp only [BJNLogger.step] at taken
      split at taken
      · cases taken
      · cases writeAll_wroteAll stalled.state taken with
        | finished => exact .inl { stalled with }
        | refused _ _ _ unfinished =>
            refine .inr ⟨_, rfl, _, List.mem_singleton_self _, rfl, fun whole => ?_⟩
            rw [Line.accepted, List.take_eq_self_iff] at whole
            exact absurd unfinished (by simpa using whole)
        | accepted file state _ contents _ told =>
            refine .inl ⟨state, stalled.idle, ?_, ?_, file ▸ stalled.contents⟩
            · rw [told, if_neg stalled.buffered, List.append_nil]
              exact stalled.quiet
            · rw [contents]
              exact fun none => stalled.buffered (List.append_eq_nil_iff.mp none).1
  | dispatch unset =>
      simp only [BJNLogger.step] at taken
      split at taken
      · rename_i posted
        exact absurd (by rw [posted]; exact List.mem_cons_self) stalled.quiet
      · rename_i posted
        cases taken
        have quiet := stalled.quiet
        rw [posted, List.mem_cons, not_or] at quiet
        exact .inl { stalled with quiet := quiet.2 }
      · cases taken
  | getBuffered =>
      simp only [BJNLogger.step, stalled.idle] at taken
      cases taken
  | read =>
      simp only [BJNLogger.step, stalled.idle] at taken
      cases taken
  | flush => exact absurd rfl unflushed
  | close =>
      cases taken
      exact .inl { stalled with }

/-- Once the thread rests on a buffer that is not empty, nothing more reaches the file until
the log is flushed or a text is cut short by a full buffer. -/
theorem stalled_until_cut {platform : Platform} {start final : BJNLogger} {labels : List Label}
    (stalled : Stalled start.fifo.file.contents start) (unflushed : .flush ∉ labels)
    (executed : execute (step platform) start labels = some final) :
    Stalled start.fifo.file.contents final ∨ CutSince start.lines final := by
  have guarded : Guarded (BJNLogger.step platform) (fun _ label => label ≠ .flush) start labels :=
    guarded_of_mem fun label member same => unflushed (same ▸ member)
  have kept := execute_preserves
    (fun logger => (Stalled start.fifo.file.contents logger ∧
      ∃ newer, logger.lines = start.lines ++ newer) ∨ CutSince start.lines logger)
    ?_ (.inl ⟨stalled, [], (List.append_nil _).symm⟩) guarded executed
  · exact kept.imp_left And.left
  · intro logger label next held unflushed taken
    obtain ⟨newer, lines⟩ := step_lines taken
    obtain ⟨stalled, earlier, same⟩ | cut := held
    · obtain stalled | ⟨later, appended, line, member, short⟩ := stalled.step unflushed taken
      · exact .inl ⟨stalled, earlier ++ newer, by rw [lines, same, List.append_assoc]⟩
      · exact .inr ⟨earlier ++ later, by rw [appended, same, List.append_assoc], line,
          List.mem_append_right _ member, short⟩
    · exact .inr (cut.append lines)

/-- The file of an encrypted log that was never flushed has whole blocks only. -/
theorem unflushed_whole_blocks {platform : Platform} {file : FileStream} {bytes : List UInt8}
    (encrypted : file.encryptedLog = true) (unpadded : file.padBuffer = false)
    (recorded : file.Records platform bytes) : streamBufsize ∣ bytes.length := by
  rw [FileStream.Records, if_pos encrypted] at recorded
  obtain ⟨pieces, joined, -, sizes⟩ := recorded
  rw [← joined, List.length_flatten]
  apply List.dvd_sum
  intro size member
  obtain ⟨piece, inside, rfl⟩ := List.mem_map.mp member
  obtain whole | ⟨padded, -⟩ := sizes piece inside
  · exact dvd_of_eq whole.symm
  · rw [unpadded] at padded
    cases padded

/-- An encrypted log that is not flushed keeps in memory what does not fill a block. Once the
thread is at rest, texts that fit in the buffer stay there too, however many: nothing more
reaches the file until a text is cut short. -/
theorem encrypted_log_stalls {platform : Platform} (whole : FileStream.WholeBlocks platform)
    {memory : List UInt8} {encryptedLog : Bool} {before after : List Label}
    {start final : BJNLogger} (stays : .close ∉ before)
    (reached : execute (step platform) (initial memory encryptedLog) before = some start)
    (encrypted : start.fifo.file.encryptedLog = true)
    (unpadded : start.fifo.file.padBuffer = false) (idle : start.thread = .idle)
    (quiet : .seRead ∉ start.posted) (uneven : ¬ streamBufsize ∣ start.accepted.length)
    (unflushed : .flush ∉ after)
    (executed : execute (step platform) start after = some final) :
    Stalled start.fifo.file.contents final ∨ CutSince start.lines final := by
  have sound := reached_sound (fun _ => whole) stays reached
  obtain ⟨bytes, records, ordered⟩ := sound.recorded
  refine stalled_until_cut ⟨sound.state, idle, quiet, fun nothing => uneven ?_, rfl⟩ unflushed
    executed
  rw [nothing, List.append_nil] at ordered
  rw [← ordered]
  exact unflushed_whole_blocks encrypted unpadded records

theorem encrypted_log_stalls_twoTexts :
    ∃ start final,
      execute (step blockPlatform) (initial [0, 0, 0, 0] true) (twoTexts.take 6) = some start ∧
        execute (step blockPlatform) start (twoTexts.drop 6) = some final ∧
          (Stalled start.fifo.file.contents final ∨ CutSince start.lines final) := by
  have first : execute (step blockPlatform) (initial [0, 0, 0, 0] true) (twoTexts.take 6) =
      some _ := rfl
  refine ⟨_, _, first, rfl, ?_⟩
  exact encrypted_log_stalls blockPlatform_whole (by decide) first rfl rfl rfl (by decide)
    (by decide) (show Label.flush ∉ twoTexts.drop 6 by decide) rfl

end BJNLogger

end FiberApp.Logging
