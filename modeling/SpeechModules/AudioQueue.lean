import Mathlib.Data.List.Basic

/-!
# The audio queue

`audio_queue.h` keeps a bounded byte buffer between the media thread that
writes frames and the sender thread that reads blocks.  Every function runs
under the queue's mutex, so each is one transition of the queue, except that
`audio_queue_read` gives the mutex up while it waits; it is split there.
-/

namespace SpeechModules

abbrev Bytes := List UInt8

/-- The fields of `audio_queue_t` that are not handles. -/
structure AudioQueue where
  buffer : Bytes
  writeBytes : Nat
  readBytes : Nat
  waiting : Nat
  deriving DecidableEq

namespace AudioQueue

/-- The fields written by `audio_queue_create`. -/
def create : AudioQueue := ⟨[], 0, 0, 0⟩

/-- `AUDIO_QUEUE_SIZE`. -/
def size : Nat := 320 * 50 * 15

/-- `AUDIO_QUEU_TIMEOUT_USEC` in milliseconds. -/
def timeoutMs : Nat := 120

/-- The result of `switch_buffer_write`: the number of bytes then in use, or 0 if
the data does not fit, in which case nothing is written. -/
def bufferWriteResult (queue : AudioQueue) (data : Bytes) : Nat :=
  if queue.buffer.length + data.length ≤ size then
    queue.buffer.length + data.length
  else 0

/-- `audio_queue_write`, with whether the data was accepted. -/
def write (queue : AudioQueue) (data : Bytes) : AudioQueue × Bool :=
  if 0 < queue.bufferWriteResult data then
    ({ queue with
      buffer := queue.buffer ++ data
      writeBytes := queue.writeBytes + data.length }, true)
  else (queue, false)

/-- How a region of `audio_queue_read` ends: in the timed wait, or with the data
it returns. -/
inductive ReadResult where
  | wait (queue : AudioQueue)
  | done (queue : AudioQueue) (data : Bytes)

/-- The part of `audio_queue_read` after its wait. -/
def readEnd (queue : AudioQueue) (requested : Nat) : ReadResult :=
  .done
    { queue with
      buffer := queue.buffer.drop requested
      readBytes := queue.readBytes + (queue.buffer.take requested).length
      waiting := 0 }
    (queue.buffer.take requested)

/-- The loop around the timed wait of a blocking `audio_queue_read`. -/
def readLoop (queue : AudioQueue) (requested : Nat) : ReadResult :=
  if queue.buffer.length < requested then
    .wait { queue with waiting := requested }
  else queue.readEnd requested

/-- A blocking `audio_queue_read` up to its first wait.  Nothing is read until a
first whole request has been buffered. -/
def readStart (queue : AudioQueue) (requested : Nat) : ReadResult :=
  if queue.readBytes = 0 ∧ queue.buffer.length < requested then
    .done queue []
  else queue.readLoop requested

/-- The timed wait of `audio_queue_read` returns, by a timeout or otherwise. -/
def readWake (queue : AudioQueue) (requested : Nat) (timedOut : Bool) :
    ReadResult :=
  if timedOut then queue.readEnd requested else queue.readLoop requested

/-- `audio_queue_clear`. -/
def clear (_ : AudioQueue) : AudioQueue := create

/-- An accepted write appends the data, a rejected one changes nothing. -/
theorem write_eq {queue after : AudioQueue} {data : Bytes} {accepted : Bool}
    (written : queue.write data = (after, accepted)) :
    (accepted = true ∧ after.buffer = queue.buffer ++ data) ∨
      (accepted = false ∧ after = queue) := by
  unfold write at written
  split at written
  · cases written
    exact .inl ⟨rfl, rfl⟩
  · cases written
    exact .inr ⟨rfl, rfl⟩

/-- What a region of `audio_queue_read` returns is taken from the front of the
buffer. -/
def ReadResult.Conserves (before : Bytes) : ReadResult → Prop
  | .wait queue => queue.buffer = before
  | .done queue data => data ++ queue.buffer = before

theorem readEnd_conserves (queue : AudioQueue) (requested : Nat) :
    (queue.readEnd requested).Conserves queue.buffer :=
  List.take_append_drop requested queue.buffer

theorem readLoop_conserves (queue : AudioQueue) (requested : Nat) :
    (queue.readLoop requested).Conserves queue.buffer := by
  unfold readLoop
  split
  · rfl
  · exact readEnd_conserves queue requested

theorem readStart_conserves (queue : AudioQueue) (requested : Nat) :
    (queue.readStart requested).Conserves queue.buffer := by
  unfold readStart
  split
  · rfl
  · exact readLoop_conserves queue requested

theorem readWake_conserves (queue : AudioQueue) (requested : Nat)
    (timedOut : Bool) :
    (queue.readWake requested timedOut).Conserves queue.buffer := by
  unfold readWake
  split
  · exact readEnd_conserves queue requested
  · exact readLoop_conserves queue requested

end AudioQueue

end SpeechModules
