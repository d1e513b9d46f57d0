import SpeechModules.AudioQueue
import SpeechModules.StepSystem

/-!
# The audio queue under concurrent use

Any number of writers, one reader and any number of calls of
`audio_queue_clear` share one queue.  Every region under the mutex is one step;
`audio_queue_clear` resets the three counters after it has given the mutex up,
one store after the other.

The bytes leave the queue in the order in which they came whatever the
interleaving, and a reader that sleeps is woken once there is enough for it.
The counters agree with the buffer only if nothing is written between the unlock
of a clear and its store to `write_bytes`.
-/

namespace SpeechModules

namespace AudioQueue

open StepSystem

/-- An `audio_queue_read` that may not block. -/
def readNow (queue : AudioQueue) (requested : Nat) : ReadResult :=
  if queue.readBytes = 0 ∧ queue.buffer.length < requested then
    .done queue []
  else
    .done
      { queue with
        buffer := queue.buffer.drop requested
        readBytes := queue.readBytes + (queue.buffer.take requested).length }
      (queue.buffer.take requested)

/-- The region of `audio_queue_clear` under the mutex. -/
def zero (queue : AudioQueue) : AudioQueue := { queue with buffer := [] }

/-- Whether a write signals the condition after it has been accepted. -/
def wakes (queue : AudioQueue) : Bool :=
  decide (queue.waiting ≤ queue.buffer.length)

/-! ## The steps -/

/-- Positions inside `audio_queue_clear` after its unlock. -/
inductive ClearPc where
  | resetReadBytes
  | resetWriteBytes
  | resetWaiting
  deriving DecidableEq

/-- The reader is outside `audio_queue_read` or in its timed wait, where a signal
may have reached it. -/
inductive ReaderPc where
  | idle
  | asleep (requested : Nat) (signalled : Bool)
  deriving DecidableEq

/-- A queue with its users.  The observer notes the bytes that have been accepted
and delivered since the buffer was last emptied. -/
structure Shared where
  queue : AudioQueue
  reader : ReaderPc
  clears : List ClearPc
  accepted : Bytes
  delivered : Bytes

def Shared.initial : Shared := ⟨create, .idle, [], [], []⟩

inductive Access where
  | write (data : Bytes)
  | read (requested : Nat) (block : Bool)
  | wake (timedOut : Bool)
  | signal
  | clear
  | clearStep (index : Nat)

/-- `switch_thread_cond_signal`. -/
def ReaderPc.signal : ReaderPc → ReaderPc
  | .idle => .idle
  | .asleep requested _ => .asleep requested true

/-- The end of a region of `audio_queue_read`. -/
def Shared.endRead (shared : Shared) (requested : Nat) : ReadResult → Shared
  | .wait queue =>
      { shared with queue := queue, reader := .asleep requested false }
  | .done queue data =>
      { shared with
        queue := queue
        reader := .idle
        delivered := shared.delivered ++ data }

/-- One store of a clear. -/
def Shared.clearStep (shared : Shared) (index : Nat) : ClearPc → Shared
  | .resetReadBytes =>
      { shared with
        queue := { shared.queue with readBytes := 0 }
        clears := shared.clears.set index .resetWriteBytes }
  | .resetWriteBytes =>
      { shared with
        queue := { shared.queue with writeBytes := 0 }
        clears := shared.clears.set index .resetWaiting }
  | .resetWaiting =>
      { shared with
        queue := { shared.queue with waiting := 0 }
        clears := shared.clears.eraseIdx index }

/-- A timed wait may end at any time, by a signal, by a timeout or without a
reason. -/
def Shared.step (shared : Shared) : Access → Option Shared
  | .write data =>
      let (queue, accepted) := shared.queue.write data
      some (if accepted then
          { shared with
            queue := queue
            reader := if queue.wakes then shared.reader.signal
              else shared.reader
            accepted := shared.accepted ++ data }
        else { shared with queue := queue })
  | .read requested block =>
      match shared.reader with
      | .idle =>
          some (shared.endRead requested
            (if block then shared.queue.readStart requested
              else shared.queue.readNow requested))
      | .asleep _ _ => none
  | .wake timedOut =>
      match shared.reader with
      | .idle => none
      | .asleep requested _ =>
          some (shared.endRead requested
            (shared.queue.readWake requested timedOut))
  | .signal => some { shared with reader := shared.reader.signal }
  | .clear =>
      some { shared with
        queue := shared.queue.zero
        reader := shared.reader.signal
        clears := shared.clears ++ [.resetReadBytes]
        accepted := []
        delivered := [] }
  | .clearStep index => (shared.clears[index]?).map (shared.clearStep index)

/-! ## The property -/

/-- The counters agree with the buffer when no clear is under way, what has been
delivered is the beginning of what has been accepted, and a write that is
rejected would change nothing. -/
structure Accounted (shared : Shared) : Prop where
  counters : shared.clears = [] →
    shared.queue.writeBytes =
      shared.queue.readBytes + shared.queue.buffer.length
  inOrder : shared.delivered <+: shared.accepted
  rejected : ∀ data, (shared.queue.write data).2 = false →
    (shared.queue.write data).1 = shared.queue

/-- A clear empties the buffer, a block is written, and then the clear stores 0
to `write_bytes`. -/
def overtakenClearSchedule : List Access :=
  [Access.clear, Access.write (List.replicate 320 0)] ++
    List.replicate 3 (Access.clearStep 0)

theorem accounted_fails :
    ¬ ∀ shared, Reach Shared.step Shared.initial shared → Accounted shared := by
  intro always
  obtain ⟨shared, reached, passed⟩ :=
    exists_reach_of_replay Shared.step Shared.initial overtakenClearSchedule
      (fun shared => shared.clears == [] && shared.queue.writeBytes == 0 &&
        shared.queue.readBytes == 0 && shared.queue.buffer.length == 320)
      (by decide +kernel)
  simp only [Bool.and_eq_true, beq_iff_eq] at passed
  obtain ⟨⟨⟨finished, written⟩, read⟩, buffered⟩ := passed
  have balance := (always shared reached).counters finished
  rw [written, read, buffered] at balance
  cases balance

/-- Nothing is accepted while a clear has yet to store to `write_bytes`. -/
def notOvertaken (shared : Shared) : Access → Bool
  | .write data =>
      shared.queue.bufferWriteResult data == 0 ||
        shared.clears.all fun clear => clear == .resetWaiting
  | _ => true

/-! ## The invariant -/

/-- A clear that has yet to store to `write_bytes` finds the buffer empty, and
`read_bytes` too once it has stored to that. -/
structure Balanced (shared : Shared) : Prop where
  inOrder : shared.delivered ++ shared.queue.buffer = shared.accepted
  emptied : ∀ clear ∈ shared.clears, clear ≠ .resetWaiting →
    shared.queue.buffer = []
  readReset : ClearPc.resetWriteBytes ∈ shared.clears →
    shared.queue.readBytes = 0
  counters : (∀ clear ∈ shared.clears, clear = .resetWaiting) →
    shared.queue.writeBytes =
      shared.queue.readBytes + shared.queue.buffer.length

theorem Balanced.accounted {shared : Shared} (balanced : Balanced shared) :
    Accounted shared := by
  refine ⟨fun finished => balanced.counters ?_, ?_, fun data rejected => ?_⟩
  · rw [finished]
    exact nofun
  · exact ⟨shared.queue.buffer, balanced.inOrder⟩
  · have written : shared.queue.write data =
        ((shared.queue.write data).1, (shared.queue.write data).2) := rfl
    rcases write_eq written with ⟨accepted, _⟩ | ⟨_, same⟩
    · rw [rejected] at accepted
      cases accepted
    · exact same

section Reads

/-- `read_bytes` counts what a region of `audio_queue_read` returns. -/
def ReadResult.Counts (before : AudioQueue) : ReadResult → Prop
  | .wait queue =>
      queue.readBytes = before.readBytes ∧
        queue.writeBytes = before.writeBytes
  | .done queue data =>
      queue.readBytes = before.readBytes + data.length ∧
        queue.writeBytes = before.writeBytes

theorem readLoop_counts (queue : AudioQueue) (requested : Nat) :
    (queue.readLoop requested).Counts queue := by
  unfold readLoop
  split <;> exact ⟨rfl, rfl⟩

theorem readStart_counts (queue : AudioQueue) (requested : Nat) :
    (queue.readStart requested).Counts queue := by
  unfold readStart
  split
  · exact ⟨rfl, rfl⟩
  · exact readLoop_counts queue requested

theorem readWake_counts (queue : AudioQueue) (requested : Nat)
    (timedOut : Bool) : (queue.readWake requested timedOut).Counts queue := by
  unfold readWake
  split
  · exact ⟨rfl, rfl⟩
  · exact readLoop_counts queue requested

theorem readNow_counts (queue : AudioQueue) (requested : Nat) :
    (queue.readNow requested).Counts queue := by
  unfold readNow
  split <;> exact ⟨rfl, rfl⟩

theorem readNow_conserves (queue : AudioQueue) (requested : Nat) :
    (queue.readNow requested).Conserves queue.buffer := by
  unfold readNow
  split
  · rfl
  · exact List.take_append_drop requested queue.buffer

end Reads

section Steps

variable {before after : Shared}

/-- Nothing changes but the reader's position and `waiting`. -/
theorem Balanced.of_frame (balanced : Balanced before)
    (sameBuffer : after.queue.buffer = before.queue.buffer)
    (sameRead : after.queue.readBytes = before.queue.readBytes)
    (sameWrite : after.queue.writeBytes = before.queue.writeBytes)
    (sameClears : after.clears = before.clears)
    (sameAccepted : after.accepted = before.accepted)
    (sameDelivered : after.delivered = before.delivered) : Balanced after := by
  refine ⟨?_, ?_, ?_, ?_⟩
  · rw [sameDelivered, sameBuffer, sameAccepted]
    exact balanced.inOrder
  · rw [sameClears, sameBuffer]
    exact balanced.emptied
  · rw [sameClears, sameRead]
    exact balanced.readReset
  · rw [sameClears, sameWrite, sameRead, sameBuffer]
    exact balanced.counters

theorem Balanced.endRead {result : ReadResult} {requested : Nat}
    (balanced : Balanced before)
    (conserves : result.Conserves before.queue.buffer)
    (counts : result.Counts before.queue) :
    Balanced (before.endRead requested result) := by
  cases result with
  | wait queue => exact balanced.of_frame conserves counts.1 counts.2 rfl rfl rfl
  | done queue data =>
      obtain ⟨countsRead, sameWrite⟩ := counts
      change data ++ queue.buffer = before.queue.buffer at conserves
      refine ⟨?_, fun clear member early => ?_, fun resets => ?_, fun late => ?_⟩
      · change (before.delivered ++ data) ++ queue.buffer = before.accepted
        rw [List.append_assoc, conserves]
        exact balanced.inOrder
      · have empty := balanced.emptied clear member early
        rw [← conserves] at empty
        exact (List.append_eq_nil_iff.mp empty).2
      · have empty := balanced.emptied _ resets nofun
        rw [← conserves] at empty
        change queue.readBytes = 0
        rw [countsRead, balanced.readReset resets,
          (List.append_eq_nil_iff.mp empty).1]
        rfl
      · have balance := balanced.counters late
        have length := congrArg List.length conserves
        rw [List.length_append] at length
        change queue.writeBytes = queue.readBytes + queue.buffer.length
        omega

/-- An accepted write, when no clear has yet to store to `write_bytes`. -/
theorem Balanced.write {data : Bytes} {reader : ReaderPc}
    (balanced : Balanced before)
    (late : ∀ clear ∈ before.clears, clear = .resetWaiting) :
    Balanced { before with
      queue := { before.queue with
        buffer := before.queue.buffer ++ data
        writeBytes := before.queue.writeBytes + data.length }
      reader := reader
      accepted := before.accepted ++ data } := by
  refine ⟨?_, fun clear member early => ?_, fun resets => ?_, fun _ => ?_⟩
  · change before.delivered ++ (before.queue.buffer ++ data) = _
    rw [← List.append_assoc, balanced.inOrder]
  · exact absurd (late clear member) early
  · exact absurd (late _ resets) nofun
  · have balance := balanced.counters late
    simp only [List.length_append]
    omega

theorem Balanced.clear (balanced : Balanced before) {reader : ReaderPc} :
    Balanced { before with
      queue := before.queue.zero
      reader := reader
      clears := before.clears ++ [.resetReadBytes]
      accepted := []
      delivered := [] } := by
  refine ⟨rfl, fun _ _ _ => rfl, fun resets => ?_, fun late => ?_⟩
  · rcases List.mem_append.mp resets with old | new
    · exact balanced.readReset old
    · cases List.mem_singleton.mp new
  · have last := late .resetReadBytes
      (List.mem_append_right _ (List.mem_singleton.mpr rfl))
    cases last

theorem Balanced.clearStep {index : Nat} {clear : ClearPc}
    (balanced : Balanced before)
    (located : before.clears[index]? = some clear) :
    Balanced (before.clearStep index clear) := by
  have member := List.mem_of_getElem? located
  cases clear with
  | resetReadBytes =>
      have empty := balanced.emptied _ member nofun
      refine ⟨balanced.inOrder, fun _ _ _ => empty, fun _ => rfl, fun late => ?_⟩
      have inside := (List.getElem?_eq_some_iff.mp located).1
      cases late _ (List.mem_set inside _)
  | resetWriteBytes =>
      have empty := balanced.emptied _ member nofun
      have noneRead := balanced.readReset member
      refine ⟨balanced.inOrder, fun _ _ _ => empty, fun _ => noneRead,
        fun _ => ?_⟩
      change 0 = before.queue.readBytes + before.queue.buffer.length
      rw [noneRead, empty]
      rfl
  | resetWaiting =>
      refine ⟨balanced.inOrder, fun other isOther early => ?_,
        fun resets => ?_, fun late => balanced.counters fun other isOther => ?_⟩
      · exact balanced.emptied other (List.mem_of_mem_eraseIdx isOther) early
      · exact balanced.readReset (List.mem_of_mem_eraseIdx resets)
      · obtain ⟨position, isThere⟩ := List.mem_iff_getElem?.mp isOther
        by_cases here : position = index
        · subst here
          exact Option.some.inj (isThere.symm.trans located)
        · exact late other
            (List.mem_eraseIdx_iff_getElem?.mpr ⟨position, here, isThere⟩)

theorem Balanced.step {access : Access} (balanced : Balanced before)
    (permitted : notOvertaken before access = true)
    (stepped : before.step access = some after) : Balanced after := by
  cases access with
  | write data =>
      by_cases accepted : 0 < before.queue.bufferWriteResult data
      · have late : ∀ clear ∈ before.clears, clear = .resetWaiting := by
          simpa [notOvertaken, Nat.ne_of_gt accepted] using permitted
        simp only [Shared.step, AudioQueue.write, if_pos accepted, if_true]
          at stepped
        cases stepped
        exact balanced.write late
      · simp only [Shared.step, AudioQueue.write, if_neg accepted] at stepped
        cases stepped
        exact balanced
  | read requested block =>
      cases here : before.reader <;> simp only [Shared.step, here] at stepped
      case idle =>
        cases stepped
        cases block with
        | true =>
            exact balanced.endRead (readStart_conserves _ _)
              (readStart_counts _ _)
        | false =>
            exact balanced.endRead (readNow_conserves _ _) (readNow_counts _ _)
      case asleep => cases stepped
  | wake timedOut =>
      cases here : before.reader <;> simp only [Shared.step, here] at stepped
      case idle => cases stepped
      case asleep =>
        cases stepped
        exact balanced.endRead (readWake_conserves _ _ _) (readWake_counts _ _ _)
  | signal =>
      cases stepped
      exact balanced.of_frame rfl rfl rfl rfl rfl rfl
  | clear =>
      cases stepped
      exact balanced.clear
  | clearStep index =>
      obtain ⟨clear, located, rfl⟩ := Option.map_eq_some_iff.mp stepped
      exact balanced.clearStep located

end Steps

/-- In every run in which no write overtakes a clear, the queue keeps its
accounts. -/
theorem accounted_of_notOvertaken {shared : Shared}
    (reached : PermittedReach Shared.step
      (fun shared access => notOvertaken shared access = true)
      Shared.initial shared) :
    Accounted shared := by
  have balanced : Balanced shared :=
    reached.invariant ⟨rfl, nofun, nofun, fun _ => rfl⟩
      fun _ _ _ balanced permitted stepped => balanced.step permitted stepped
  exact balanced.accounted

/-- A block is written and read, a second one is dropped by a clear, and a write
comes before the clear has returned. -/
def lateWriteSchedule : List Access :=
  [.write (List.replicate 320 1), .read 320 true,
    .write (List.replicate 320 2), .clear, .clearStep 0, .clearStep 0,
    .write (List.replicate 320 3), .clearStep 0]

theorem accounted_lateWriteSchedule :
    ∃ shared, PermittedReach Shared.step
        (fun shared access => notOvertaken shared access = true)
        Shared.initial shared ∧
      (shared.clears == [] && shared.queue.buffer.length == 320) = true ∧
      Accounted shared := by
  obtain ⟨shared, reached, passed⟩ :=
    exists_permittedReach_of_replay Shared.step Shared.initial
      lateWriteSchedule
      (fun shared => shared.clears == [] && shared.queue.buffer.length == 320)
      (fun shared access => notOvertaken shared access = true)
      (by decide +kernel)
  exact ⟨shared, reached, passed, accounted_of_notOvertaken reached⟩

/-! ## Wake-ups

A write signals only if what is then in the buffer covers `waiting`, which the
reader sets under the mutex and a clear resets without it. -/

/-- A reader in its timed wait with no signal on its way finds too little in the
buffer, and `waiting` is no more than what it asks for. -/
structure Attentive (shared : Shared) : Prop where
  noted : ∀ requested, shared.reader = .asleep requested false →
    shared.queue.waiting ≤ requested
  lacking : ∀ requested, shared.reader = .asleep requested false →
    shared.queue.buffer.length < requested

theorem ReaderPc.signal_ne_asleep (reader : ReaderPc) (requested : Nat) :
    reader.signal ≠ .asleep requested false := by
  cases reader with
  | idle => exact nofun
  | asleep other signalled => exact nofun

/-- A region of `audio_queue_read` that ends in the wait has noted what it waits
for. -/
def ReadResult.Notes (requested : Nat) : ReadResult → Prop
  | .wait queue => queue.waiting = requested ∧ queue.buffer.length < requested
  | .done _ _ => True

theorem readLoop_notes (queue : AudioQueue) (requested : Nat) :
    (queue.readLoop requested).Notes requested := by
  unfold readLoop
  split
  next few => exact ⟨rfl, few⟩
  next => exact trivial

theorem readStart_notes (queue : AudioQueue) (requested : Nat) :
    (queue.readStart requested).Notes requested := by
  unfold readStart
  split
  · exact trivial
  · exact readLoop_notes queue requested

theorem readWake_notes (queue : AudioQueue) (requested : Nat)
    (timedOut : Bool) : (queue.readWake requested timedOut).Notes requested := by
  unfold readWake
  split
  · exact trivial
  · exact readLoop_notes queue requested

theorem readNow_notes (queue : AudioQueue) (requested : Nat) :
    (queue.readNow requested).Notes requested := by
  unfold readNow
  split <;> exact trivial

section Attention

variable {before after : Shared}

theorem Attentive.of_signalled {queue : AudioQueue} {reader : ReaderPc}
    {clears : List ClearPc} {accepted delivered : Bytes} :
    Attentive ⟨queue, reader.signal, clears, accepted, delivered⟩ where
  noted := fun requested asleep =>
    absurd asleep (reader.signal_ne_asleep requested)
  lacking := fun requested asleep =>
    absurd asleep (reader.signal_ne_asleep requested)

theorem Attentive.endRead {result : ReadResult} {requested : Nat}
    (notes : result.Notes requested) :
    Attentive (before.endRead requested result) := by
  cases result with
  | wait queue =>
      obtain ⟨noted, few⟩ := notes
      constructor
      · rintro _ ⟨⟩
        exact Nat.le_of_eq noted
      · rintro _ ⟨⟩
        exact few
  | done queue data => exact ⟨nofun, nofun⟩

/-- An accepted write reaches a reader for whom there is enough: what it asks for
is at least `waiting`. -/
theorem Attentive.write {data : Bytes} (attentive : Attentive before)
    (accepted : 0 < before.queue.bufferWriteResult data)
    (stepped : before.step (.write data) = some after) : Attentive after := by
  simp only [Shared.step, AudioQueue.write, if_pos accepted, if_true] at stepped
  cases stepped
  split
  next => exact .of_signalled
  next quiet =>
    have uncovered : (before.queue.buffer ++ data).length <
        before.queue.waiting := by
      simpa [wakes] using quiet
    constructor
    · exact attentive.noted
    · intro requested asleep
      exact Nat.lt_of_lt_of_le uncovered (attentive.noted requested asleep)

/-- The stores of a clear leave the buffer alone and can only lower
`waiting`. -/
theorem Attentive.clearStep {index : Nat} (attentive : Attentive before)
    (clear : ClearPc) : Attentive (before.clearStep index clear) := by
  cases clear with
  | resetReadBytes => exact ⟨attentive.noted, attentive.lacking⟩
  | resetWriteBytes => exact ⟨attentive.noted, attentive.lacking⟩
  | resetWaiting =>
      constructor
      · intro requested _
        exact Nat.zero_le requested
      · exact attentive.lacking

theorem Attentive.step {access : Access} (attentive : Attentive before)
    (stepped : before.step access = some after) : Attentive after := by
  cases access with
  | write data =>
      by_cases accepted : 0 < before.queue.bufferWriteResult data
      · exact attentive.write accepted stepped
      · simp only [Shared.step, AudioQueue.write, if_neg accepted] at stepped
        cases stepped
        exact attentive
  | read requested block =>
      cases here : before.reader <;> simp only [Shared.step, here] at stepped
      case idle =>
        cases stepped
        apply Attentive.endRead
        cases block with
        | true => exact readStart_notes before.queue requested
        | false => exact readNow_notes before.queue requested
      case asleep => cases stepped
  | wake timedOut =>
      cases here : before.reader <;> simp only [Shared.step, here] at stepped
      case idle => cases stepped
      case asleep requested signalled =>
        cases stepped
        apply Attentive.endRead
        exact readWake_notes before.queue requested timedOut
  | signal =>
      cases stepped
      exact .of_signalled
  | clear =>
      cases stepped
      exact .of_signalled
  | clearStep index =>
      obtain ⟨clear, -, rfl⟩ := Option.map_eq_some_iff.mp stepped
      exact attentive.clearStep clear

end Attention

/-- No wake-up is lost: whenever the reader sleeps in its timed wait and no signal
has reached it, the buffer holds less than it asks for. -/
theorem noLostWakeUp {shared : Shared} {requested : Nat}
    (reached : Reach Shared.step Shared.initial shared)
    (asleep : shared.reader = .asleep requested false) :
    shared.queue.buffer.length < requested := by
  have attentive : Attentive shared :=
    reached.invariant ⟨nofun, nofun⟩
      fun _ _ _ attentive _ stepped => attentive.step stepped
  exact attentive.lacking requested asleep

/-- The reader comes for a second block.  A clear takes its note away, and half a
block finds it asleep again. -/
def halfBlockSchedule : List Access :=
  [.write (List.replicate 320 1), .read 320 true, .read 320 true, .clear,
    .wake false, .clearStep 0, .clearStep 0, .clearStep 0,
    .write (List.replicate 160 2), .wake false]

theorem noLostWakeUp_halfBlock :
    ∃ shared, Reach Shared.step Shared.initial shared ∧
      (shared.reader = .asleep 320 false ∧ shared.queue.buffer.length = 160) ∧
      shared.queue.buffer.length < 320 := by
  obtain ⟨shared, reached, passed⟩ :=
    exists_reach_of_replay Shared.step Shared.initial halfBlockSchedule
      (fun shared => shared.reader == .asleep 320 false &&
        shared.queue.buffer.length == 160)
      (by decide +kernel)
  rw [Bool.and_eq_true, beq_iff_eq, beq_iff_eq] at passed
  exact ⟨shared, reached, passed, noLostWakeUp reached passed.1⟩

end AudioQueue

end SpeechModules
